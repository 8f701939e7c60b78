import ScriptScout.Grammar.Dialect
import ScriptScout.Text.Basic

/-!
# What stands between tokens

Blanks and comments, and the rule by which a statement ends without a
semicolon.

The rule looks at the text after the last token. A statement may end
at the end of the text, before a closing brace, or at a newline unless
the next line starts with something that can only continue an
expression. It does not look past a comment on the same line (in plain
scripts with an exception), so a comment may have to be stepped over
first, and then it counts as part of the statement.
-/

namespace ScriptScout.Grammar

/-- Blanks between tokens. -/
def isSpace (c : Char) : Bool :=
  Text.isBlank c || c == '\ufeff' || c == '\u2060' || c == '\u200b'

/-- The blanks that the end-of-statement rule steps over. -/
def isPlainSpace (c : Char) : Bool :=
  c == ' ' || ('\t' ≤ c && c ≤ '\r')

def isLineBreak (c : Char) : Bool :=
  c == '\n' || c == '\u2028' || c == '\u2029'

/-- A place in the text: the characters from there on, and the byte
offset. `enclosed` holds inside brackets, where no statement can end,
and `plainArrows` where an arrow function may not declare the type of
its result. -/
structure Cursor where
  rest : List Char
  offset : Nat
  enclosed : Bool := false
  plainArrows : Bool := false
  deriving Repr, Inhabited

/-- Steps over the first `n` characters. -/
def Cursor.advance (c : Cursor) : Nat → Cursor
  | 0 => c
  | n + 1 =>
      match c.rest with
      | [] => c
      | x :: rest => Cursor.advance { c with rest := rest, offset := c.offset + x.utf8Size } n

/-- Steps over characters as long as they satisfy `p`. -/
def Cursor.skipWhile (p : Char → Bool) (c : Cursor) : Cursor :=
  c.advance (c.rest.takeWhile p).length

/-! ## Comments -/

/-- How many characters a block comment takes after its opening, up to
and with the first `*/`. -/
def blockCommentLength : List Char → Option Nat
  | '*' :: '/' :: _ => some 2
  | _ :: cs => (blockCommentLength cs).map (· + 1)
  | [] => none

/-- The length of the comment that the text starts with. -/
def commentLength? : List Char → Option Nat
  | '/' :: '/' :: cs =>
      some (2 + (cs.takeWhile fun c => !(isLineBreak c || c == '\r')).length)
  | '/' :: '*' :: cs => (blockCommentLength cs).map (· + 2)
  | _ => none

/-- The length of a comment written with the marks of a markup page;
it reaches to the end of the line. -/
def markupCommentLength? (cs : List Char) : Option Nat :=
  let lineLength := (cs.takeWhile (!isLineBreak ·)).length
  match cs with
  | '<' :: '!' :: '-' :: '-' :: _ => some lineLength
  | '-' :: '-' :: '>' :: _ => some lineLength
  | _ => none

/-- Steps over blanks and comments; `markup` says whether the marks of
a markup page start a comment here. `fuel` bounds the number of
comments. -/
def skipTriviaFrom (markup : Bool) : Nat → Cursor → Cursor
  | 0, c => c
  | fuel + 1, c =>
      let c := c.skipWhile isSpace
      match (commentLength? c.rest).or
          (if markup then markupCommentLength? c.rest else none) with
      | some n => skipTriviaFrom markup fuel (c.advance n)
      | none => c

def Cursor.skipTrivia (c : Cursor) (markup : Bool) : Cursor :=
  skipTriviaFrom markup (c.rest.length + 1) c

/-! ## Statements that end without a semicolon -/

/-- What a look past blanks and comments has found: a slash that
starts no comment, a comment on one line, or the next token. -/
inductive Gap where
  | reject
  | sameLine
  | accept
  deriving Repr, DecidableEq

/-- Steps over the inside of a block comment. Tells whether it holds a
line break, and what follows it. -/
def skipBlock (sawBreak : Bool) : List Char → Bool × List Char
  | '*' :: '/' :: cs => (sawBreak, cs)
  | c :: cs => skipBlock (sawBreak || isLineBreak c) cs
  | [] => (sawBreak, [])

/-- Looks past blanks and comments. Without `through` the look ends
after the first block comment, unless a slash follows. -/
def lookPast (through : Bool) : Nat → List Char → Bool → Gap × List Char
  | 0, cs, _ => (.accept, cs)
  | fuel + 1, cs, sawBreak =>
      match cs.dropWhile isPlainSpace with
      | '/' :: '/' :: cs => lookPast through fuel (cs.dropWhile (!isLineBreak ·)) sawBreak
      | '/' :: '*' :: cs =>
          let (sawBreak, rest) := skipBlock sawBreak cs
          if rest.head? != some '/' && !through then
            (if sawBreak then .accept else .sameLine, rest)
          else lookPast through fuel rest sawBreak
      | '/' :: cs => (.reject, cs)
      | cs => (.accept, cs)

def isLetter (c : Char) : Bool :=
  ('a' ≤ c && c ≤ 'z') || ('A' ≤ c && c ≤ 'Z')

/-- Is the next word not one of the operators `in` and `instanceof`?
Read after the letter `i`. -/
def startsNoOperator : List Char → Bool
  | 'n' :: cs =>
      match cs with
      | c :: _ =>
          if isLetter c then
            !(cs.take 8 == "stanceof".toList && !((cs.drop 8).head?.any isLetter))
          else false
      | [] => false
  | _ => true

/-- May a new statement start with this text, on a line of its own, in
a plain script? -/
def startsLinePlain : List Char → Bool
  | c :: cs =>
      if "\x60,:;*%><=[(?^|&/".toList.contains c then false
      else if c == '.' then cs.head?.any fun d => '0' ≤ d && d ≤ '9'
      else if c == '+' then cs.head? == some '+'
      else if c == '-' then cs.head? == some '-'
      else if c == '!' then cs.head? != some '='
      else if c == 'i' then startsNoOperator cs
      else true
  | [] => true

/-- May a new statement start with this text, on a line of its own, in
a typed script? After a whole expression (`expr`) a bracket continues
it, and where a body may follow (`body`) so does a brace. -/
def startsLineTyped (expr body : Bool) : List Char → Bool
  | c :: cs =>
      if ",.;*%><=?^|&/:".toList.contains c then false
      else if c == '\x7b' then !body
      else if c == '(' || c == '[' then !expr
      else if c == '+' then cs.head? == some '+'
      else if c == '-' then cs.head? == some '-'
      else if c == '!' then cs.head? != some '='
      else if c == 'i' then startsNoOperator cs
      else true
  | [] => true

/-- Where a statement is looked at that might end. `expr` holds after
a whole expression, `body` after the head of a function. -/
structure EndSite where
  expr : Bool
  body : Bool := false
  deriving Repr, DecidableEq

/-- May a statement of a plain script end right here? -/
def endsHerePlain (site : EndSite) : Nat → List Char → Bool
  | 0, _ => false
  | _ + 1, [] => true
  | fuel + 1, c :: cs =>
      let (gap, rest) :=
        if c == '/' then lookPast false (cs.length + 2) (c :: cs) false
        else (.reject, c :: cs)
      if c == '/' && gap == .reject then false
      else if gap == .accept && !site.expr
          && rest.head? != some ',' && rest.head? != some '=' then true
      else
        match rest with
        | [] => false
        | c :: cs =>
            if c == '\x7d' then true
            else if isLineBreak c then
              match lookPast true (cs.length + 1) cs false with
              | (.reject, _) => false
              | (_, next) => startsLinePlain next
            else if isPlainSpace c then endsHerePlain site fuel cs
            else false

/-- May a statement of a typed script end right here? -/
def endsHereTyped (site : EndSite) : List Char → Bool
  | [] => true
  | c :: cs =>
      if c == '\x7d' then
        if (cs.dropWhile isPlainSpace).head? == some ':' then site.expr else true
      else if c == '\n' then
        match lookPast true (cs.length + 1) cs false with
        | (.reject, _) => false
        | (_, next) => startsLineTyped site.expr site.body next
      else if isPlainSpace c then endsHereTyped site cs
      else false

def endsHere (d : Dialect) (site : EndSite) (cs : List Char) : Bool :=
  if d.isTyped then endsHereTyped site cs
  else endsHerePlain site (cs.length + 1) cs

/-- The end of a statement without a semicolon, which may lie behind
comments. -/
def automaticEndFrom (d : Dialect) (site : EndSite) : Nat → Cursor → Option Cursor
  | 0, _ => none
  | fuel + 1, c =>
      if endsHere d site c.rest then some c
      else
        let c := c.skipWhile isSpace
        match commentLength? c.rest with
        | some n => automaticEndFrom d site fuel (c.advance n)
        | none => none

def Cursor.automaticEnd? (c : Cursor) (d : Dialect) (site : EndSite) : Option Cursor :=
  automaticEndFrom d site (c.rest.length + 1) c

end ScriptScout.Grammar
