import ScriptScout.Grammar.Declaration

/-!
# Reading a source text

Ties the constructs of the grammar together and reads a whole text.
-/

namespace ScriptScout.Grammar

open ScriptScout.Grammar.Parser

/-- The construct behind each goal. -/
def construct : Goal → Parser GrammarTree
  | .statement => statement
  | .block => block
  | .expression => expression
  | .expressions => expressions
  | .binary level => binary level
  | .unary bang => unary bang
  | .objectLiteral => objectLiteral
  | .arrayLiteral => arrayLiteral
  | .parameters => parameters
  | .classBody => classBody
  | .element => element
  | .type => type
  | .primaryType => primaryType
  | .typeArguments => typeArguments
  | .typeParameters => typeParameters
  | .declaration => declaration

/-- Reaches a goal with at most `fuel` goals nested in each other. -/
def reach (d : Dialect) : Nat → Goal → Scan GrammarTree
  | 0, _ => failure
  | fuel + 1, g => construct g { dialect := d, reach := reach d fuel }

/-- How many goals may be nested for a text of this length. Between
two goals without a character read there are fewer than eight others. -/
def nestingBound (length : Nat) : Nat := 8 * length + 64

/-- The line that names the interpreter of a script. -/
def hashBangLine? : Parser (List GrammarTree) := optionalPart do
  if ← startsWith "#!" then
    let n := ((← ahead).takeWhile (· != '\n')).length
    some <$> token "hash_bang_line" n
  else return none

/-- A whole text. It starts at its first token or comment and reaches
to its end. -/
def program : Parser GrammarTree := do
  let before ← get
  let start := (before.skipWhile isSpace).offset
  let line ← hashBangLine?
  let statements ← many do
    let _ ← operandOffset
    if (← rest).isEmpty then return none else some <$> call .statement
  let _ ← operandOffset
  ensure (← rest).isEmpty
  node "program" start (line ++ statements)

/-- The tree of a text without errors. -/
def parseWhole (d : Dialect) (source : String) : Option GrammarTree := do
  let cs := source.toList
  guard (!cs.contains '\x00')
  let env : Env := { dialect := d, reach := reach d (nestingBound cs.length) }
  let (tree, _) ← program.readAt? env { rest := cs, offset := 0 }
  guard (isSettled tree)
  return tree

end ScriptScout.Grammar
