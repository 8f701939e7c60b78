import ScriptScout.Grammar.Token
import ScriptScout.Grammar.Tree

/-!
# The parser's frame

A parser reads from a cursor and fails without a trace, so that
another reading can be tried from the same place. The constructs of
the grammar refer to each other in circles; each circle goes through
`Goal`, and the run in `Grammar.Parse` ties the knot with a bound on
the nesting that the length of the text justifies. So each construct
can be defined on its own, in any module.

The cursor rests right behind the last token that was read. Blanks and
comments are stepped over when the next token is looked at.
-/

namespace ScriptScout.Grammar

/-- The constructs through which the grammar refers to itself. -/
inductive Goal where
  | statement
  | block
  | expression
  | expressions
  /-- A binary expression of operators that bind at least this
  tightly. -/
  | binary (level : Nat)
  /-- An operand with its prefix operators; `bang` says whether a `!`
  behind it belongs to it. -/
  | unary (bang : Bool)
  | objectLiteral
  | arrayLiteral
  | parameters
  | classBody
  | element
  | type
  | primaryType
  | typeArguments
  | typeParameters
  | declaration
  deriving Repr, DecidableEq

/-- A reading from a cursor. Beside it, and not undone by a failure,
runs the furthest offset that any reading has reached. -/
abbrev Scan := StateT Cursor (OptionT (StateM Nat))

/-- What a parser knows: the dialect, and how to reach each goal. -/
structure Env where
  dialect : Dialect
  reach : Goal → Scan GrammarTree

abbrev Parser := ReaderT Env Scan

namespace Parser

/-- What a parser reads at a cursor. -/
def readAt? {α : Type} (p : Parser α) (env : Env) (c : Cursor) : Option (α × Cursor) :=
  (((p.run env).run c).run c.offset).1

/-- The furthest offset that a parser reaches from a cursor. -/
def frontier {α : Type} (p : Parser α) (env : Env) (c : Cursor) : Nat :=
  (((p.run env).run c).run c.offset).2

def call (g : Goal) : Parser GrammarTree := do
  (← read).reach g

def dialect : Parser Dialect := do
  return (← read).dialect

def isTyped : Parser Bool := do
  return (← dialect).isTyped

/-- Tries a reading; a failure leaves the cursor where it was. -/
def tryParse {α : Type} (p : Parser α) : Parser (Option α) :=
  (some <$> p) <|> pure none

def ensure (b : Bool) : Parser Unit :=
  if b then pure () else failure

/-- Reads with the cursor's flags changed, and sets them back. -/
def withFlags {α : Type} (enclosed plainArrows : Bool) (p : Parser α) : Parser α := do
  let before ← get
  set { before with enclosed := enclosed, plainArrows := plainArrows }
  let a ← p
  modify fun c => { c with enclosed := before.enclosed, plainArrows := before.plainArrows }
  return a

/-- Reads something in brackets, where no statement can end. -/
def enclosed {α : Type} (p : Parser α) : Parser α :=
  withFlags true false p

/-- Reads statements, which end by themselves. -/
def opened {α : Type} (p : Parser α) : Parser α :=
  withFlags false false p

/-! ## Looking and stepping -/

def rest : Parser (List Char) := do
  return (← get).rest

/-- The offset right behind the last token. -/
def offset : Parser Nat := do
  return (← get).offset

def skipTrivia : Parser Unit :=
  modify (·.skipTrivia false)

/-- Steps to the next token and gives its offset. -/
def nextOffset : Parser Nat := do
  skipTrivia
  offset

/-- As `nextOffset`, at a place where an operand may stand and a
markup mark starts a comment. -/
def operandOffset : Parser Nat := do
  modify (·.skipTrivia true)
  offset

/-- The text from the next token on. -/
def ahead : Parser (List Char) := do
  return ((← get).skipTrivia false).rest

def advance (n : Nat) : Parser Unit := do
  modify (·.advance n)
  let reached ← offset
  modifyThe Nat (max reached)

/-- Does the text from the next token on start with these characters? -/
def startsWith (text : String) : Parser Bool := do
  return text.toList.isPrefixOf (← ahead)

/-- The mark that comes next. -/
def nextMark : Parser (Option String) := do
  return mark? (← ahead)

def isMark (m : String) : Parser Bool := do
  return (← nextMark) == some m

/-- Reads these characters, whatever follows them. -/
def literal (text : String) : Parser Unit := do
  skipTrivia
  ensure (text.toList.isPrefixOf (← rest))
  advance text.length

/-- Reads these characters if they come next. -/
def optional (text : String) : Parser Bool := do
  if ← startsWith text then
    literal text
    return true
  else return false

/-- Reads exactly this mark. -/
def mark (m : String) : Parser Unit := do
  ensure (← isMark m)
  literal m

/-- The word that comes next. -/
def nextWord : Parser (Option String) := do
  let cs ← ahead
  return (wordLength? cs).map fun n => String.ofList (cs.take n)

def isWord (w : String) : Parser Bool := do
  return (← nextWord) == some w

/-- Reads exactly this word. -/
def word (w : String) : Parser Unit := do
  ensure (← isWord w)
  literal w

/-- Reads this word if it comes next. -/
def optionalWord (w : String) : Parser Bool := do
  if ← isWord w then
    literal w
    return true
  else return false

/-- The cursor right behind the next word. -/
def behindWord : Parser Cursor := do
  let c := (← get).skipTrivia false
  match wordLength? c.rest with
  | some n => return c.advance n
  | none => failure

/-- Looks further ahead without reading anything. -/
def peek {α : Type} (p : Parser α) : Parser (Option α) := do
  let before ← get
  let a ← tryParse p
  set before
  return a

/-! ## The ends of statements -/

/-- Could a statement end right behind the expression before the
cursor? Then the expression cannot go on. -/
def endsExpression : Parser Bool := do
  let c ← get
  if c.enclosed then return false
  return (c.automaticEnd? (← dialect) ⟨true, false⟩).isSome

/-- Reads the end of a statement: a semicolon, or a place where none
is needed. -/
def semicolon (site : EndSite) : Parser Unit := do
  match (← get).automaticEnd? (← dialect) site with
  | some c => set c
  | none => literal ";"

/-- Steps to a place where a statement may end without semicolon, if
there is one right here. -/
def optionalEnd (site : EndSite) : Parser Unit := do
  match (← get).automaticEnd? (← dialect) site with
  | some c => set c
  | none => return ()

/-! ## Making nodes -/

/-- A node from `start` to right behind the last token. -/
def node (kind : String) (start : Nat) (parts : List GrammarTree) : Parser GrammarTree := do
  return .node { kind := kind, span := ⟨start, ← offset⟩ } parts

/-- A node of one token of `n` characters. -/
def token (kind : String) (n : Nat) : Parser GrammarTree := do
  let start ← nextOffset
  advance n
  node kind start []

/-- A piece of `n` characters that no blank may come before. -/
def piece (kind : String) (n : Nat) : Parser GrammarTree := do
  let start ← offset
  advance n
  node kind start []

/-- An operator, which is a part without a name. -/
def operatorToken (text : String) : Parser GrammarTree := do
  let start ← nextOffset
  literal text
  let span : Span := ⟨start, ← offset⟩
  let label : Label :=
    { kind := text, span := span, named := false, role := some .operator }
  return .node label []

/-- The next word as a leaf of this kind. -/
def wordAs (kind : String) : Parser GrammarTree := do
  match wordLength? (← ahead) with
  | some n => token kind n
  | none => failure

/-- A name that is not bound to be a keyword here. -/
def identifier : Parser GrammarTree := do
  wordAs "identifier"

/-! ## Optional and repeated parts -/

/-- Reads something if it is there; if not, the cursor stays. -/
def orStay {α : Type} (p : Parser (Option α)) : Parser (Option α) := do
  let before ← get
  match ← p with
  | some a => return some a
  | none =>
      set before
      return none

/-- A part that may be missing, as a list. -/
def optionalPart (p : Parser (Option GrammarTree)) : Parser (List GrammarTree) := do
  return (← orStay p).toList

/-- Reads as often as `p` has something to give. -/
def manyFrom {α : Type} (p : Parser (Option α)) : Nat → List α → Parser (List α)
  | 0, acc => return acc.reverse
  | fuel + 1, acc => do
      match ← orStay p with
      | some a => manyFrom p fuel (a :: acc)
      | none => return acc.reverse

/-- Reads as often as `p` has something to give; each time it must
read at least one character, so the length of the text is enough. -/
def many {α : Type} (p : Parser (Option α)) : Parser (List α) := do
  manyFrom p ((← rest).length + 1) []

/-- Builds on a tree as often as `step` can. -/
def growFrom (step : GrammarTree → Parser (Option GrammarTree)) :
    Nat → GrammarTree → Parser GrammarTree
  | 0, t => return t
  | fuel + 1, t => do
      match ← orStay (step t) with
      | some t => growFrom step fuel t
      | none => return t

/-- Builds on a tree as often as `step` can, each time reading at least
one character. -/
def grow (step : GrammarTree → Parser (Option GrammarTree)) (t : GrammarTree) :
    Parser GrammarTree := do
  growFrom step ((← rest).length + 1) t

/-- Items set apart by commas, up to the closing mark, which is read
too. An item may be left out. -/
def commaList {α : Type} (close : String) (item : Parser α) : Parser (List α) := do
  let items ← many do
    if ← startsWith close then return none
    else if ← optional "," then return some []
    else
      let a ← item
      if !(← startsWith close) then literal ","
      return some [a]
  literal close
  return items.flatten

/-- At least one item; a comma may stand behind the last. Nothing else
is left out, and the closing mark is read too. -/
def commaListOne {α : Type} (close : String) (item : Parser α) : Parser (List α) := do
  let first ← item
  let others ← many do
    if ← optional "," then
      if ← startsWith close then return none
      else return some (← item)
    else return none
  let _ ← optional ","
  literal close
  return first :: others

/-- At least one item, with commas between. -/
def sepByComma {α : Type} (item : Parser α) : Parser (List α) := do
  let first ← item
  let others ← many do
    if ← optional "," then return some (← item) else return none
  return first :: others

end Parser

end ScriptScout.Grammar
