import ScriptScout.Grammar.Function

/-!
# Classes

The heads, the bodies and the members of classes. A member of a typed
script has more modifiers, may lack a body, and may be an index
signature.
-/

namespace ScriptScout.Grammar.Parser

/-! ## Heritage -/

/-- A base with type arguments, up to the end of the clause. -/
def genericBase : Parser (List GrammarTree) := do
  let e ← enclosed (call (.unary true))
  ensure (← startsWith "<")
  let typeArguments ← call .typeArguments
  ensure ((← startsWith "\x7b") || (← startsWith ",") || (← isWord "implements"))
  return [e, typeArguments]

/-- The base of a typed class; type arguments stand beside it. -/
def baseClass : Parser (List GrammarTree) := genericBase <|> do
  let e ← enclosed (call .expression)
  match e.kind, e.parts with
  | "instantiation_expression", parts => return parts
  | _, _ => return [e]

def extendsClause? : Parser (List GrammarTree) := optionalPart do
  let start ← nextOffset
  if ← optionalWord "extends" then
    let bases ← sepByComma baseClass
    some <$> node "extends_clause" start bases.flatten
  else return none

def implementsClause? : Parser (List GrammarTree) := optionalPart do
  let start ← nextOffset
  if ← optionalWord "implements" then
    let types ← sepByComma (call .type)
    some <$> node "implements_clause" start types
  else return none

def heritage? : Parser (List GrammarTree) := optionalPart do
  let start ← nextOffset
  if ← isTyped then
    let clauses := (← extendsClause?) ++ (← implementsClause?)
    if clauses.isEmpty then return none
    else some <$> node "class_heritage" start clauses
  else if ← optionalWord "extends" then
    let e ← enclosed (call .expression)
    some <$> node "class_heritage" start [e]
  else return none

/-- The name of a class. -/
def className : Parser GrammarTree := do
  wordAs (if ← isTyped then "type_identifier" else "identifier")

/-- May the next word be the name of a class, rather than the start of
its heritage? -/
def isClassName : Parser Bool := do
  match ← nextWord with
  | some w => return w != "extends" && !(w == "implements" && (← isTyped))
  | none => return false

/-- All of a class behind its name. -/
def classTail : Parser (List GrammarTree) := do
  let typeParameters ← typeParameters?
  let heritage ← heritage?
  let body ← call .classBody
  return typeParameters ++ heritage ++ [body]

/-- A class as an expression. -/
def classExpression : Parser GrammarTree := do
  let start ← nextOffset
  let decorators ← decorators
  word "class"
  let name ← optionalPart do
    if ← isClassName then some <$> className else return none
  let tail ← classTail
  node "class" start (decorators ++ name ++ tail)

/-! ## Members -/

/-- Is the next word a modifier of a class member? It is not if the
member may end behind it. -/
def isMemberModifier : Parser Bool := do
  let c ← behindWord
  if (c.automaticEnd? (← dialect) ⟨false, false⟩).isSome then return false
  isModifier startsMember

/-- The modifiers in front of a member's name. Some leave a part
behind. -/
def memberModifiers (words : List String) : Parser (List String × List GrammarTree) := do
  let found ← many do
    if ← startsWith "*" then
      literal "*"
      return some ("*", [])
    match ← nextWord with
    | some w =>
        if words.contains w && (← isMemberModifier) then
          if ["public", "private", "protected"].contains w then
            return some (w, [← wordAs "accessibility_modifier"])
          else if w == "override" then
            return some (w, [← wordAs "override_modifier"])
          else
            literal w
            return some (w, [])
        else return none
    | none => return none
  return (found.map (·.1), found.flatMap (·.2))

def staticBlock : Parser GrammarTree := do
  let start ← nextOffset
  word "static"
  ensure (← startsWith "\x7b")
  let body ← bodyOf false
  node "class_static_block" start [body]

/-- A method or a field of a plain class, with what ends it. -/
def plainMember : Parser (List GrammarTree) := do
  let start ← nextOffset
  let decorators ← decorators
  let (_, _) ← memberModifiers ["static", "async", "get", "set"]
  let name ← propertyName
  if ← isMark "(" then
    let parameters ← call .parameters
    let body ← bodyOf false
    let m ← node "method_definition" start (decorators ++ [name, parameters, body])
    let _ ← optional ";"
    return [m]
  else
    let value ← opened initializer?
    let m ← node "field_definition" start (decorators ++ [name] ++ value)
    semicolon ⟨!value.isEmpty, false⟩
    return [m]

/-- The word or mark in front of the bracket of an index signature. -/
def indexSign : Parser Unit := do
  let signed ← peek do
    literal "-" <|> literal "+"
    word "readonly"
  if signed.isSome then
    literal "-" <|> literal "+"
  if ← isWord "readonly" then
    if ((← behindWord).skipTrivia false).rest.head? == some '[' then literal "readonly"

/-- A name, `in` and a type, and perhaps `as` and a type. -/
def mappedTypeClause : Parser GrammarTree := do
  let start ← nextOffset
  let name ← wordAs "type_identifier"
  word "in"
  let source ← call .type
  let target ← optionalPart do
    if ← optionalWord "as" then some <$> call .type else return none
  node "mapped_type_clause" start ([name, source] ++ target)

/-- The annotation of an index signature, which may add or remove
optionality. -/
def indexType : Parser GrammarTree := do
  let start ← nextOffset
  let kind ←
    if ← optional "-?:" then pure "omitting_type_annotation"
    else if ← optional "+?:" then pure "adding_type_annotation"
    else if ← optional "?:" then pure "opting_type_annotation"
    else do
      literal ":"
      pure "type_annotation"
  let t ← call .type
  node kind start [t]

/-- A member whose name is computed from a key type. -/
def indexSignature : Parser GrammarTree := do
  let start ← nextOffset
  indexSign
  literal "["
  let inner ← (do return [← mappedTypeClause]) <|> do
    let name ← identifier
    literal ":"
    let t ← call .type
    return [name, t]
  literal "]"
  let typing ← indexType
  node "index_signature" start (inner ++ [typing])

/-- The mark or place that ends a member without a body. -/
def memberEnd (site : EndSite) : Parser Unit := do
  if ← startsWith "," then literal "," else semicolon site

/-- A method or a field of a typed class, with what ends it. -/
def typedMember : Parser (List GrammarTree) := do
  let start ← nextOffset
  let decorators ← decorators
  let inner ← nextOffset
  let (words, modifiers) ← memberModifiers
    ["public", "private", "protected", "declare", "static", "override", "readonly",
      "abstract", "accessor", "async", "get", "set"]
  let name ← propertyName
  let questioned ← optional "?"
  if !questioned && (← isMark "!") then literal "!"
  if (← isMark "(") || (← startsWith "<") then
    let signature ← signature
    let parts := modifiers ++ [name] ++ signature
    if words.contains "abstract" then
      let m ← node "abstract_method_signature" inner parts
      memberEnd ⟨false, false⟩
      return decorators ++ [m]
    else if (((← get).automaticEnd? (← dialect) ⟨false, true⟩).isNone)
        && (← startsWith "\x7b") then
      let body ← bodyOf false
      let m ← node "method_definition" inner (parts ++ [body])
      optionalEnd ⟨false, false⟩
      let _ ← optional ";"
      return decorators ++ [m]
    else
      let m ← node "method_signature" inner parts
      memberEnd ⟨false, true⟩
      return decorators ++ [m]
  else
    let typing ← typedAs?
    let value ← opened initializer?
    let m ← node "public_field_definition" start
      (decorators ++ modifiers ++ [name] ++ typing ++ value)
    memberEnd ⟨!value.isEmpty, false⟩
    return [m]

def member : Parser (List GrammarTree) := do
  match ← tryParse staticBlock with
  | some b => return [b]
  | none =>
      if ← isTyped then
        let index ← tryParse do
          let m ← indexSignature
          memberEnd ⟨false, false⟩
          return m
        match index with
        | some m => return [m]
        | none => typedMember
      else plainMember

def classBody : Parser GrammarTree := do
  let start ← nextOffset
  literal "\x7b"
  let members ← opened <| many do
    if ← startsWith "\x7d" then return none
    else if ← optional ";" then return some []
    else return some (← member)
  literal "\x7d"
  node "class_body" start members.flatten

end ScriptScout.Grammar.Parser
