import ScriptScout.Grammar.Literal

/-!
# Markup

Elements as expressions: tags with attributes, and between an opening
and a closing tag text, character references, expressions in braces
and further elements. The names in the two tags need not agree.
-/

namespace ScriptScout.Grammar.Parser

/-- A name in markup, which may hold hyphens. -/
def markupWord : Parser GrammarTree := do
  match hyphenNameLength? (← ahead) with
  | some n => token "identifier" n
  | none => identifier

/-- The name of an element: a name, one with dots, or one with a
namespace. -/
def elementName : Parser GrammarTree := do
  let start ← nextOffset
  let first ← markupWord
  if ← isMark ":" then
    literal ":"
    let second ← markupWord
    node "jsx_namespace_name" start [first, second]
  else
    grow (fun t => do
      if ← isMark "." then
        literal "."
        let p ← wordAs "property_identifier"
        some <$> node "member_expression" start
          [t.withRole .object, p.withRole .property]
      else return none) first

/-- An expression in braces, which may be left out or be the rest of
an object. -/
def markupExpression : Parser GrammarTree := do
  let start ← nextOffset
  literal "\x7b"
  let inner ← enclosed do
    let start ← operandOffset
    if ← startsWith "\x7d" then return []
    else if ← startsWith "..." then
      literal "..."
      let e ← call .expression
      return [← node "spread_element" start [e]]
    else return [← call .expressions]
  literal "\x7d"
  node "jsx_expression" start inner

/-- A quoted attribute value: text and character references. -/
def attributeString : Parser GrammarTree := do
  let start ← nextOffset
  match ← rest with
  | quote :: _ =>
      ensure (quote == '"' || quote == '\x27')
      advance 1
      let pieces ← many do
        let cs ← rest
        match attributeTextLength quote cs with
        | 0 =>
            match characterReferenceLength? cs with
            | some n => some <$> piece "html_character_reference" n
            | none => return none
        | n => some <$> piece "string_fragment" n
      ensure ((← rest).head? == some quote)
      advance 1
      node "string" start pieces
  | [] => failure

def attributeValue : Parser GrammarTree := do
  match ← ahead with
  | '\x7b' :: _ => markupExpression
  | '<' :: _ => call .element
  | _ => attributeString

def markupAttribute : Parser GrammarTree := do
  let start ← nextOffset
  let first ← markupWord
  let name ←
    if ← isMark ":" then do
      literal ":"
      let second ← markupWord
      node "jsx_namespace_name" start [first, second]
    else pure (first.withKind "property_identifier")
  if ← startsWith "=" then
    literal "="
    let value ← attributeValue
    node "jsx_attribute" start [name, value]
  else node "jsx_attribute" start [name]

def attributes : Parser (List GrammarTree) := many do
  match ← ahead with
  | '\x7b' :: _ => some <$> markupExpression
  | cs =>
      if (wordLength? cs).isSome then some <$> markupAttribute else return none

/-- What stands between two tags, piece by piece. -/
def markupChild : Parser (Option GrammarTree) := do
  match markupTextLength? (← rest) with
  | some n => some <$> piece "jsx_text" n
  | none =>
      let _ ← nextOffset
      match ← rest with
      | '<' :: '/' :: _ => return none
      | '<' :: _ => some <$> call .element
      | '\x7b' :: _ => some <$> markupExpression
      | cs =>
          match characterReferenceLength? cs with
          | some n => some <$> piece "html_character_reference" n
          | none => failure

def closingTag : Parser GrammarTree := do
  let start ← nextOffset
  literal "</"
  let name ← if ← startsWith ">" then pure [] else do pure [← elementName]
  literal ">"
  node "jsx_closing_element" start name

/-- An element, with all that it holds. -/
def element : Parser GrammarTree := do
  let start ← nextOffset
  literal "<"
  let head ←
    if ← startsWith ">" then pure []
    else do
      let name ← elementName
      let typeArguments ←
        if (← isTyped) && (← startsWith "<") then do pure [← call .typeArguments]
        else pure []
      pure ([name] ++ typeArguments ++ (← attributes))
  if !head.isEmpty && (← startsWith "/>") then
    literal "/>"
    node "jsx_self_closing_element" start head
  else
    literal ">"
    let opening ← node "jsx_opening_element" start head
    let children ← enclosed (many markupChild)
    let closing ← closingTag
    node "jsx_element" start ([opening] ++ children ++ [closing])

end ScriptScout.Grammar.Parser
