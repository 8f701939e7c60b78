import ScriptScout.Grammar.Expression

/-!
# Types

The types of typed scripts. From the outside in: conditional types,
unions, intersections, and single types with brackets behind them.
-/

namespace ScriptScout.Grammar

/-- The words that are types by themselves. -/
def isPredefinedType (w : String) : Bool :=
  ["any", "number", "boolean", "string", "symbol", "void", "unknown", "never",
    "object"].contains w

namespace Parser

/-- Could a statement end right behind the type before the cursor? -/
def endsType : Parser Bool := do
  let c ← get
  if c.enclosed then return false
  return (c.automaticEnd? (← dialect) ⟨false, false⟩).isSome

/-! ## Lists of types -/

def typeArguments : Parser GrammarTree := do
  let start ← nextOffset
  literal "<"
  let types ← enclosed (commaListOne ">" (call .type))
  node "type_arguments" start types

def typeParameter : Parser GrammarTree := do
  let start ← nextOffset
  let _ ← modifier? (fun _ => false) "const"
  let name ← wordAs "type_identifier"
  let limit ← optionalPart do
    let start ← nextOffset
    let extended ← optionalWord "extends"
    let limited ← if extended then pure true else optional ":"
    if limited then
      let t ← call .type
      some <$> node "constraint" start [t]
    else return none
  let default ← optionalPart do
    let start ← nextOffset
    if ← isMark "=" then
      literal "="
      let t ← call .type
      some <$> node "default_type" start [t]
    else return none
  node "type_parameter" start ([name] ++ limit ++ default)

def typeParameters : Parser GrammarTree := do
  let start ← nextOffset
  literal "<"
  let items ← enclosed (commaListOne ">" typeParameter)
  node "type_parameters" start items

/-! ## Names -/

/-- A name with dots, as far as it goes; the last part is a type. -/
def typeName : Parser GrammarTree := do
  let start ← nextOffset
  let first ← wordAs "type_identifier"
  let names ← many do
    if ← isMark "." then
      literal "."
      return some (← wordAs "type_identifier")
    else return none
  match names.reverse with
  | [] => return first
  | last :: inner =>
      let qualifier := inner.reverse.foldl (fun (acc : GrammarTree) (n : GrammarTree) =>
          GrammarTree.node
            { kind := "nested_identifier", span := ⟨start, n.span.stop⟩ }
            [acc.withRole .object, (n.withKind "property_identifier").withRole .property])
        (first.withKind "identifier")
      node "nested_type_identifier" start [qualifier, last]

/-- A named type, perhaps with arguments. -/
def namedType : Parser GrammarTree := do
  let start ← nextOffset
  let name ← typeName
  if (← startsWith "<") && !(← endsType) then
    let args ← call .typeArguments
    node "generic_type" start [name, args]
  else return name

/-! ## Members of object types -/

/-- One member of an object type, without what ends it. -/
def typeMember : Parser GrammarTree := do
  let start ← nextOffset
  let next ← ahead
  if next.head? == some '(' || next.head? == some '<' then
    let signature ← signature
    node "call_signature" start signature
  else
    (do
      let _ ← modifier? (fun _ => false) "abstract"
      word "new"
      let typeParameters ← typeParameters?
      let parameters ← call .parameters
      let typing ← typedAs?
      node "construct_signature" start (typeParameters ++ [parameters] ++ typing))
    <|> indexSignature <|> do
      let (_, modifiers) ← memberModifiers
        ["public", "private", "protected", "static", "override", "readonly",
          "async", "get", "set"]
      let name ← propertyName
      let _ ← optional "?"
      if (← isMark "(") || (← startsWith "<") then
        let signature ← signature
        node "method_signature" start (modifiers ++ [name] ++ signature)
      else
        let typing ← typedAs?
        node "property_signature" start (modifiers ++ [name] ++ typing)

/-- An object type under the given kind. -/
def objectTypeAs (kind : String) : Parser GrammarTree := do
  let start ← nextOffset
  literal "\x7b"
  let members ← opened do
    let _ ← (optional "," <|> pure false)
    let _ ← (optional ";" <|> pure false)
    many do
      if ← startsWith "\x7d" then return none
      else
        let m ← if ← isWord "export" then call .statement else typeMember
        if !(← startsWith "\x7d") then memberEnd ⟨false, false⟩
        return some m
  literal "\x7d"
  node kind start members

/-! ## Single types -/

/-- A member of a tuple: a type, named or not, optional or not, or the
rest. -/
def tupleMember : Parser GrammarTree := do
  let start ← nextOffset
  (do
    let name ←
      if ← startsWith "..." then restParameter else identifier
    let isOptional ← optional "?"
    let typing ← typedAs
    node (if isOptional then "optional_parameter" else "required_parameter") start
      [name, typing])
  <|> (do
    literal "..."
    let t ← call .type
    node "rest_type" start [t])
  <|> do
    let t ← call .type
    if ← optional "?" then node "optional_type" start [t] else return t

def tupleType : Parser GrammarTree := do
  let start ← nextOffset
  literal "["
  let items ← enclosed (commaList "]" tupleMember)
  node "tuple_type" start items

/-- The type of a value: `typeof` and a name with members. -/
def typeQuery : Parser GrammarTree := do
  let start ← nextOffset
  word "typeof"
  let core ←
    if ← isWord "import" then do
      callOf (← wordAs "import") []
    else if ← isWord "this" then wordAs "this"
    else identifier
  let e ← grow (fun e => do
    if ← isMark "." then
      literal "."
      some <$> memberOf e
    else return none) core
  if (← startsWith "<") && !(← endsType) then
    let args ← call .typeArguments
    let e ← node "instantiation_expression" e.span.start [e, args]
    node "type_query" start [e]
  else node "type_query" start [e]

/-- A type out of another module. -/
def importType : Parser GrammarTree := do
  let source ← callOf (← wordAs "import") []
  grow (fun e => do
    if ← isMark "." then
      literal "."
      some <$> memberOf e
    else return none) source

/-- The result of a function type. -/
def functionResult : Parser GrammarTree :=
  asserts <|> typePredicate <|> call .type

def functionType : Parser GrammarTree := do
  let start ← nextOffset
  let typeParameters ← typeParameters?
  let parameters ← call .parameters
  mark "=>"
  let result ← functionResult
  node "function_type" start (typeParameters ++ [parameters, result])

def constructorType : Parser GrammarTree := do
  let start ← nextOffset
  let _ ← optionalWord "abstract"
  word "new"
  let typeParameters ← typeParameters?
  let parameters ← call .parameters
  mark "=>"
  let result ← call .type
  node "constructor_type" start (typeParameters ++ [parameters, result])

def literalType (inner : Parser GrammarTree) : Parser GrammarTree := do
  let start ← nextOffset
  let e ← inner
  node "literal_type" start [e]

def signedNumber : Parser GrammarTree := do
  let start ← nextOffset
  literal "-" <|> literal "+"
  let n ← number
  node "unary_expression" start [n]

/-- A type that starts with a word. -/
def wordType (w : String) : Parser GrammarTree := do
  let start ← nextOffset
  match w with
  | "typeof" => typeQuery
  | "keyof" => (do
      word "keyof"
      let t ← call .primaryType
      node "index_type_query" start [t]) <|> namedType
  | "unique" => (do
      word "unique"
      word "symbol"
      node "predefined_type" start []) <|> namedType
  | "this" => wordAs "this_type"
  | "true" | "false" | "null" | "undefined" => literalType (wordAs w)
  | "import" => importType
  | _ => if isPredefinedType w then wordAs "predefined_type" else namedType

/-- A single type, without brackets behind it. -/
def typeCore : Parser GrammarTree := do
  let start ← nextOffset
  match ← rest with
  | [] => failure
  | c :: cs =>
      if c == '(' then do
        literal "("
        let t ← enclosed (call .type)
        literal ")"
        node "parenthesized_type" start [t]
      else if c == '\x7b' then objectTypeAs "object_type"
      else if c == '[' then tupleType
      else if c == '"' || c == '\x27' then literalType string
      else if c == '\x60' then
        templateOf "template_literal_type" "template_type" (call .type)
      else if c == '-' || c == '+' then literalType signedNumber
      else if isDigit c || c == '.' then literalType number
      else if c == '*' then do
        literal "*"
        node "existential_type" start []
      else if c == '?' then do
        literal "?"
        let t ← call .primaryType
        node "flow_maybe_type" start [t]
      else
        match wordLength? (c :: cs) with
        | some n => wordType (String.ofList ((c :: cs).take n))
        | none => failure

/-- Brackets behind a type: an array of it, or a member's type. -/
def bracketSuffix (t : GrammarTree) : Parser (Option GrammarTree) := do
  if ← endsType then return none
  if ← isMark "[" then
    literal "["
    if ← optional "]" then some <$> node "array_type" t.span.start [t]
    else
      let index ← enclosed (call .type)
      literal "]"
      some <$> node "lookup_type" t.span.start [t, index]
  else return none

/-- A single type with the brackets behind it. -/
def primaryType : Parser GrammarTree := do
  grow bracketSuffix (← typeCore)

/-- A member of an intersection. -/
def unaryType : Parser GrammarTree := do
  let start ← nextOffset
  match ← nextWord with
  | some "readonly" => (do
      word "readonly"
      let t ← call .type
      node "readonly_type" start [t]) <|> primaryType
  | some "infer" => (do
      word "infer"
      let name ← wordAs "type_identifier"
      let limit ← optionalPart do
        if ← optionalWord "extends" then some <$> call .type else return none
      node "infer_type" start (name :: limit)) <|> primaryType
  | some w =>
      if w == "new" || w == "abstract" then constructorType <|> primaryType
      else primaryType
  | none => functionType <|> primaryType

/-- Types with a mark between them, which may also stand in front. -/
def markedTypes (kind m : String) (item : Parser GrammarTree) : Parser GrammarTree := do
  let start ← nextOffset
  let first ←
    if ← isMark m then do
      literal m
      let t ← item
      node kind start [t]
    else item
  grow (fun t => do
    if ← endsType then return none
    if ← isMark m then
      literal m
      let right ← item
      some <$> node kind start [t, right]
    else return none) first

def unionType : Parser GrammarTree :=
  markedTypes "union_type" "|" (markedTypes "intersection_type" "&" unaryType)

/-- A type, conditional or not. -/
def type : Parser GrammarTree := do
  let start ← nextOffset
  let t ← unionType
  if ← endsType then return t
  let conditional ← tryParse do
    word "extends"
    let bound ← call .type
    literal "?"
    let consequence ← enclosed (call .type)
    literal ":"
    let alternative ← call .type
    node "conditional_type" start [t, bound, consequence, alternative]
  return conditional.getD t

end Parser

end ScriptScout.Grammar
