import ScriptScout.Grammar.Parser

/-!
# Literals and names

Strings, templates, numbers, regular expressions, and the names of
properties.
-/

namespace ScriptScout.Grammar

/-- The length of the plain text at the front of a string. -/
def fragmentLength (quote : Char) (cs : List Char) : Nat :=
  (cs.takeWhile fun c => c != quote && c != '\\' && c != '\r' && c != '\n').length

/-- The length of the plain text at the front of a template. -/
def templateTextLength : List Char → Nat
  | [] => 0
  | c :: cs =>
      if c == '\x60' || c == '\\' || c == '\x00' then 0
      else if c == '$' && cs.head? == some '\x7b' then 0
      else 1 + templateTextLength cs

namespace Parser

/-- One piece of a string. -/
def stringPiece (quote : Char) : Parser (Option GrammarTree) := do
  let cs ← rest
  match cs with
  | '\\' :: _ =>
      match escapeLength? cs with
      | some n => some <$> piece "escape_sequence" n
      | none => failure
  | _ =>
      match fragmentLength quote cs with
      | 0 => return none
      | n => some <$> piece "string_fragment" n

def string : Parser GrammarTree := do
  let start ← nextOffset
  match ← rest with
  | quote :: _ =>
      ensure (quote == '"' || quote == '\x27')
      advance 1
      let pieces ← many (stringPiece quote)
      ensure ((← rest).head? == some quote)
      advance 1
      node "string" start pieces
  | [] => failure

/-- One piece of a template; `inner` reads what stands between the
braces of a substitution, which becomes a node of kind `kind`. -/
def templatePiece (kind : String) (inner : Parser GrammarTree) :
    Parser (Option GrammarTree) := do
  let cs ← rest
  match cs with
  | '\x60' :: _ => return none
  | '\\' :: _ =>
      match escapeLength? cs with
      | some n => some <$> piece "escape_sequence" n
      | none => failure
  | _ =>
      match templateTextLength cs with
      | 0 =>
          let start ← offset
          ensure ("$\x7b".toList.isPrefixOf cs)
          advance 2
          let e ← enclosed inner
          literal "\x7d"
          some <$> node kind start [e]
      | n => some <$> piece "string_fragment" n

/-- A template of kind `kind` with substitutions of kind `part`. -/
def templateOf (kind part : String) (inner : Parser GrammarTree) :
    Parser GrammarTree := do
  let start ← nextOffset
  literal "\x60"
  let pieces ← many (templatePiece part inner)
  ensure ((← rest).head? == some '\x60')
  advance 1
  node kind start pieces

def template : Parser GrammarTree :=
  templateOf "template_string" "template_substitution" (call .expressions)

def number : Parser GrammarTree := do
  match numberLength? (← ahead) with
  | some n => token "number" n
  | none => failure

def regex : Parser GrammarTree := do
  match regexLength? (← ahead) with
  | some n => token "regex" n
  | none => failure

/-- A name that starts with a hash. -/
def privateName : Parser GrammarTree := do
  match ← ahead with
  | '#' :: cs =>
      match wordLength? cs with
      | some n => token "private_property_identifier" (n + 1)
      | none => failure
  | _ => failure

/-- The name of a property in an object or a class. -/
def propertyName : Parser GrammarTree := do
  let start ← nextOffset
  match ← rest with
  | '[' :: _ =>
      literal "["
      let e ← enclosed (call .expression)
      literal "]"
      node "computed_property_name" start [e]
  | '#' :: _ => privateName
  | c :: cs =>
      if c == '"' || c == '\x27' then string
      else if isDigit c || (c == '.' && cs.head?.any isDigit) then number
      else wordAs "property_identifier"
  | [] => failure

end Parser

end ScriptScout.Grammar
