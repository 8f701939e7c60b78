import ScriptScout.Grammar.Repair
import ScriptScout.Syntax.Lowering
import ScriptScout.Text.Span

/-!
# Reading a script

A script is read into its analysis tree. A text with errors can be read
as well, as far as it goes, and then comes with what is wrong with it.
-/

namespace ScriptScout

/-- The tree of a script without errors. -/
def readScript? (d : Dialect) (source : String) : Option Node :=
  (Grammar.parseWhole d source).map (Lowering.lower source)

/-- Something wrong with the text of a script, and where. -/
structure Diagnostic where
  message : String
  position : Position
  deriving Repr, DecidableEq, Inhabited

/-- What became of a text with errors. -/
structure Reading where
  root : Node
  errors : List Diagnostic
  deriving Repr, Inhabited

namespace Reading

mutual

/-- The nodes that stand for something wrong, in source order. What
lies below an error does not count by itself. -/
def faults : GrammarTree → List Label
  | .node label parts =>
      if label.missing || label.kind == "ERROR" then [label] else faultsOf parts

def faultsOf : List GrammarTree → List Label
  | [] => []
  | part :: rest => faults part ++ faultsOf rest

end

def diagnostic (table : LineTable) (fault : Label) : Diagnostic where
  message :=
    if fault.missing then "missing \x60" ++ fault.kind ++ "\x60" else "unexpected syntax"
  position := table.position fault.span.start

end Reading

/-- Reads a script with errors. -/
def readBroken (d : Dialect) (source : String) : Reading :=
  let tree := Grammar.parseRepaired d source
  { root := Lowering.lower source tree
    errors := (Reading.faults tree).map (Reading.diagnostic (LineTable.ofText source)) }

end ScriptScout
