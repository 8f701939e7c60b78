import ScriptScout.Grammar.Parse
import ScriptScout.Text.Span

/-!
# Repairing a text

A text that the grammar does not accept is read with small changes. At
a statement that cannot be read, either neighbouring tokens are left
out, and become a node of kind `ERROR`, or one token is put in, and
becomes a missing node. This happens at the token at which every
reading of the statement fails. Every change has a cost, and the
cheapest one after which the statement can be read is made. Where
tokens were changed no statement may end by itself.

The changed text is read in the place of the given one, and the spans
of its tree are carried back (`Edit.back`).
-/

namespace ScriptScout.Grammar

/-! ## Tokens of a text without structure -/

/-- A token, with its tree if its kind has a name. -/
structure Lexeme where
  span : Span
  tree : Option GrammarTree
  deriving Repr, Inhabited

/-- The words that are never names. -/
def keywords : List String :=
  ["break", "case", "catch", "class", "const", "continue", "debugger", "default", "delete",
    "do", "else", "export", "extends", "finally", "for", "function", "if", "import", "in",
    "instanceof", "new", "return", "switch", "throw", "try", "typeof", "var", "void",
    "while", "with"]

namespace Parser

/-- A token that has a kind of its own. -/
def namedLexeme : Parser GrammarTree := do
  ensure (!(← nextWord).any keywords.contains)
  identifier <|> number <|> string <|> template

def lexeme : Parser Lexeme := do
  let start ← nextOffset
  match ← tryParse namedLexeme with
  | some t => return ⟨t.span, some t⟩
  | none =>
      let cs ← rest
      advance ((wordLength? cs).getD (((mark? cs).getD "").length.max 1))
      return ⟨⟨start, ← offset⟩, none⟩

/-- The tokens of the rest of the text. -/
def lexemes : Parser (List Lexeme) := many do
  let _ ← operandOffset
  if (← rest).isEmpty then return none else some <$> lexeme

end Parser

/-! ## Changes -/

/-- At an offset, some bytes give way to characters. -/
structure Edit where
  offset : Nat
  removed : Nat
  inserted : List Char
  deriving Repr, Inhabited

namespace Edit

def width (e : Edit) : Nat := Text.byteLength e.inserted

/-- The offset in the given text for one in the changed text. -/
def back (e : Edit) (o : Nat) : Nat :=
  if o ≤ e.offset then o
  else if o < e.offset + e.width then e.offset
  else o - e.width + e.removed

def change? (e : Edit) (c : Cursor) : Option Cursor := do
  let (before, tail) ← Text.splitAtByte? c.rest (e.offset - c.offset)
  let (_, after) ← Text.splitAtByte? tail e.removed
  return { c with rest := before ++ e.inserted ++ after }

def backLabel (e : Edit) (label : Label) : Label :=
  { label with
    span := ⟨e.back label.span.start, e.back label.span.stop⟩
    missing := e.offset < label.span.start && label.span.stop < e.offset + e.width }

mutual

/-- The tree with the spans that it has in the given text. What was put
in is missing there. -/
def backTree (e : Edit) : GrammarTree → GrammarTree
  | .node label parts => .node (e.backLabel label) (backTrees e parts)

def backTrees (e : Edit) : List GrammarTree → List GrammarTree
  | [] => []
  | part :: rest => backTree e part :: backTrees e rest

end

end Edit

/-- A blank at which no statement may end. -/
def firmBlank : Char := '\u00a0'

/-- Leave out the tokens from one index up to another, or put one in
behind the tokens up to an index. -/
inductive Repair where
  | omission (first stop : Nat)
  | addition (index : Nat) (mark : String)
  deriving Repr, DecidableEq, Inhabited

/-- What a name that is put in looks like. -/
def placeholder : String := "_"

/-- What may be put in, in the order in which it is tried. -/
def additions : List String := [placeholder, "\x7d", ";", ")", "]"]

namespace Repair

def spanOf (ls : List Lexeme) : Span :=
  ⟨(ls.head?.map (·.span.start)).getD 0, (ls.getLast?.map (·.span.stop)).getD 0⟩

/-- Every change costs a part for being one. To that, tokens that are
left out add a part each, and one for each byte; a token that is put in
costs a little more than one of those. -/
def cost (ls : List Lexeme) : Repair → Nat
  | omission first stop =>
      let span := spanOf ((ls.drop first).take (stop - first))
      500 + 100 * (stop - first) + (span.stop - span.start)
  | addition _ _ => 610

/-- How many tokens before and behind the one that fails are looked
at. -/
def window : Nat := 40

/-- The changes to be tried where the token with index `failing` is the
first that cannot be read. Tokens that are left out lie before it or
start with it, and a token that is put in stands before it; at the end
of the text that can only close a block. -/
def candidates (ls : List Lexeme) (failing : Nat) : List Repair :=
  let n := ls.length
  let firsts := 0 :: (List.range (failing + 1)).filter fun i => 0 < i && failing ≤ i + window
  let omissions := firsts.flatMap fun first =>
    ((List.range (n + 1)).filter fun stop =>
      first < stop && failing ≤ stop && stop ≤ failing + window).map (omission first ·)
  let marks := if failing < n then additions else ["\x7d"]
  let put := if failing = 0 then [] else marks.map (addition failing ·)
  (put ++ omissions).mergeSort fun a b => a.cost ls ≤ b.cost ls

/-- The node that stands for tokens that were left out. -/
def errorNode (ls : List Lexeme) : GrammarTree :=
  .node { kind := "ERROR", span := spanOf ls } (ls.filterMap (·.tree))

/-- The mark that was expected at an offset. -/
def missingNode (mark : String) (offset : Nat) : GrammarTree :=
  .node { kind := mark, span := ⟨offset, offset⟩, named := false, missing := true } []

end Repair

/-! ## Putting nodes in -/

/-- The parts with one more, in source order. -/
def insertPart (new : GrammarTree) : List GrammarTree → List GrammarTree
  | [] => [new]
  | part :: rest =>
      if new.span.stop ≤ part.span.start then new :: part :: rest
      else part :: insertPart new rest

mutual

/-- Puts a node into the innermost node around it. -/
def graft (new : GrammarTree) : GrammarTree → GrammarTree
  | .node label parts =>
      match graftParts new parts with
      | some parts => .node label parts
      | none => .node label (insertPart new parts)

/-- Puts a node into the part around it, if there is one. -/
def graftParts (new : GrammarTree) : List GrammarTree → Option (List GrammarTree)
  | [] => none
  | part :: rest =>
      if part.span.start < new.span.start && new.span.stop < part.span.stop then
        some (graft new part :: rest)
      else (graftParts new rest).map (part :: ·)

end

/-! ## Reading on -/

/-- A statement, as long as it is one without reserve. -/
def settledStatement : Parser GrammarTree := do
  let t ← Parser.call .statement
  Parser.ensure (isSettled t)
  return t

/-- Can a statement start with the next token? -/
def startsStatement (env : Env) (c : Cursor) : Bool :=
  let c := c.skipTrivia true
  c.rest.isEmpty || c.offset < settledStatement.frontier env c

/-- A statement in a changed text, and the place to read on in the
given one. It has to reach an offset of the changed text; where it ends
within the change, another one has to follow. -/
def Edit.statement? (e : Edit) (env : Env) (c : Cursor) (reached : Nat) :
    Option (GrammarTree × Cursor) := do
  let (t, rest) ← settledStatement.readAt? env (← e.change? c)
  guard (reached ≤ rest.offset)
  let offset := e.back rest.offset
  let (_, after) ← Text.splitAtByte? c.rest (offset - c.offset)
  let next := { c with rest := after, offset }
  guard (e.offset + e.width ≤ rest.offset || startsStatement env next)
  return (e.backTree t, next)

/-- What a change makes of the text at a cursor: a node, and the place
to read on. -/
def Repair.attempt (env : Env) (c : Cursor) (ls : List Lexeme) (r : Repair) :
    Option (GrammarTree × Cursor) := do
  match r with
  | .omission first stop =>
      let left := (ls.drop first).take (stop - first)
      let next := (ls[stop]?.map (·.span.start)).getD (c.offset + Text.byteLength c.rest)
      if first = 0 then
        let (_, after) ← Text.splitAtByte? c.rest (next - c.offset)
        let rest := { c with rest := after, offset := next }
        guard (after.isEmpty || (settledStatement.readAt? env rest).isSome)
        return (errorNode left, rest)
      else
        let start := (spanOf left).start
        let e : Edit := { offset := start, removed := next - start, inserted := [firmBlank] }
        let (t, rest) ← e.statement? env c (start + e.width)
        return (graft (errorNode left) t, rest)
  | .addition index mark =>
      let offset := (spanOf (ls.take index)).stop
      let e : Edit := { offset, removed := 0, inserted := ' ' :: mark.toList ++ [firmBlank] }
      let (t, rest) ← e.statement? env c (offset + 1 + mark.length)
      return (if mark == placeholder then t else graft (missingNode mark offset) t, rest)

/-- The nodes of the statements from a cursor on. -/
def readOn (env : Env) : Nat → Cursor → List GrammarTree
  | 0, _ => []
  | fuel + 1, c =>
      let c := c.skipTrivia true
      if c.rest.isEmpty then []
      else
        match settledStatement.readAt? env c with
        | some (t, rest) => t :: readOn env fuel rest
        | none =>
            let ls := (Parser.lexemes.readAt? env c).elim [] (·.1)
            let frontier := settledStatement.frontier env c
            let failing := (ls.takeWhile (·.span.stop ≤ frontier)).length
            match (Repair.candidates ls failing).findSome? (·.attempt env c ls) with
            | some (t, rest) => t :: readOn env fuel rest
            | none => [Repair.errorNode ls]

/-- The tree of a text with errors. -/
def parseRepaired (d : Dialect) (source : String) : GrammarTree :=
  let cs := source.toList
  let env : Env := { dialect := d, reach := reach d (nestingBound cs.length) }
  let c : Cursor := { rest := cs, offset := 0 }
  let start := (c.skipWhile isSpace).offset
  .node { kind := "program", span := ⟨start, Text.byteLength cs⟩ }
    (readOn env (cs.length + 1) c)

end ScriptScout.Grammar
