import ScriptScout.Grammar.Literal
import ScriptScout.Grammar.Pattern

/-!
# Signatures

Parameter lists, type annotations, decorators and the modifiers of
members: what the heads of functions, methods and classes are made of.
In a plain script there are no types, and a signature is its parameter
list.
-/

namespace ScriptScout.Grammar.Parser

/-- A colon and a type. -/
def typedAs : Parser GrammarTree := do
  let start ← nextOffset
  literal ":"
  let t ← call .type
  node "type_annotation" start [t]

/-- A type annotation, in a typed script, if there is one. -/
def typedAs? : Parser (List GrammarTree) := optionalPart do
  if (← isTyped) && (← isMark ":") then some <$> typedAs else return none

/-- An equals sign and a value, if they come next. -/
def initializer? : Parser (List GrammarTree) := optionalPart do
  if ← isMark "=" then
    literal "="
    let v ← call .expression
    return some (v.withRole .value)
  else return none

def typeParameters? : Parser (List GrammarTree) := optionalPart do
  if (← isTyped) && (← startsWith "<") then some <$> call .typeParameters
  else return none

/-! ## Decorators -/

/-- The name of a decorator, with its members. -/
def decoratorName : Parser GrammarTree := do
  let start ← nextOffset
  grow (fun t => do
    if ← isMark "." then
      literal "."
      let p ← wordAs "property_identifier"
      some <$> node "member_expression" start [t.withRole .object, p.withRole .property]
    else return none) (← identifier)

def arguments : Parser GrammarTree := do
  let start ← nextOffset
  literal "("
  let items ← enclosed <| commaList ")" do
    let start ← operandOffset
    if ← startsWith "..." then
      literal "..."
      let e ← call .expression
      node "spread_element" start [e]
    else call .expression
  node "arguments" start items

/-- The name of a decorator, called or not. -/
def decoratorCall : Parser GrammarTree := do
  let start ← nextOffset
  let name ← decoratorName
  let typeArguments ←
    if (← isTyped) && (← startsWith "<") then tryParse (call .typeArguments)
    else pure none
  if ← isMark "(" then
    let args ← arguments
    node "call_expression" start
      ([name.withRole .function] ++ typeArguments.toList ++ [args.withRole .arguments])
  else return name

def decorator : Parser GrammarTree := do
  let start ← nextOffset
  literal "@"
  let inner ←
    if (← isTyped) && (← isMark "(") then do
      let start ← nextOffset
      literal "("
      let e ← decoratorCall
      literal ")"
      node "parenthesized_expression" start [e]
    else decoratorCall
  node "decorator" start [inner]

def decorators : Parser (List GrammarTree) := many do
  if ← startsWith "@" then some <$> decorator else return none

/-! ## Modifiers -/

/-- Does the next word come before a name, so that it is a modifier
and no name itself? `names` tells what a name may start with. -/
def isModifier (names : Char → Bool) : Parser Bool := do
  let c := (← get).skipTrivia false
  match wordLength? c.rest with
  | none => return false
  | some n =>
      let next := ((c.advance n).skipTrivia false).rest
      return next.head?.any names || (wordLength? next).isSome

/-- What a parameter's name or pattern can start with, besides a
word. -/
def startsBinding (c : Char) : Bool := c == '\x7b' || c == '['

/-- What a member's name can start with, besides a word. -/
def startsMember (c : Char) : Bool :=
  c == '[' || c == '"' || c == '\x27' || c == '#' || c == '*' || isDigit c

/-- One modifier out of `words`, if it comes next, as a node of kind
`kind`. -/
def modifierNode? (names : Char → Bool) (words : List String) (kind : String) :
    Parser (List GrammarTree) := optionalPart do
  match ← nextWord with
  | some w =>
      if words.contains w && (← isModifier names) then some <$> wordAs kind
      else return none
  | none => return none

/-- A modifier that leaves no part behind. -/
def modifier? (names : Char → Bool) (w : String) : Parser Bool := do
  if (← isWord w) && (← isModifier names) then
    literal w
    return true
  else return false

def accessModifier? (names : Char → Bool) : Parser (List GrammarTree) :=
  modifierNode? names ["public", "private", "protected"] "accessibility_modifier"

def overrideModifier? (names : Char → Bool) : Parser (List GrammarTree) :=
  modifierNode? names ["override"] "override_modifier"

/-! ## Parameters -/

def restParameter : Parser GrammarTree := do
  let start ← nextOffset
  literal "..."
  let b ← binding
  node "rest_pattern" start [b]

/-- A parameter of a plain script. -/
def plainParameter : Parser GrammarTree := do
  let start ← nextOffset
  if ← startsWith "..." then restParameter
  else
    let b ← binding
    match ← initializer? with
    | [] => return b
    | value => node "assignment_pattern" start (b :: value)

/-- A parameter of a typed script. -/
def typedParameter : Parser GrammarTree := do
  let start ← nextOffset
  let decorators ← decorators
  let access ← accessModifier? startsBinding
  let override ← overrideModifier? startsBinding
  let _ ← modifier? startsBinding "readonly"
  let pattern ←
    if ← startsWith "..." then restParameter
    else if ← isWord "this" then wordAs "this"
    else binding
  let isOptional ← optional "?"
  let typing ← typedAs?
  let value ← initializer?
  node (if isOptional then "optional_parameter" else "required_parameter") start
    (decorators ++ access ++ override ++ [pattern] ++ typing ++ value)

def parameters : Parser GrammarTree := do
  let start ← nextOffset
  literal "("
  let typed ← isTyped
  let items ← enclosed do
    if ← optional ")" then return []
    else commaListOne ")" (if typed then typedParameter else plainParameter)
  node "formal_parameters" start items

/-! ## Result types -/

/-- A name, `is` and a type. -/
def typePredicate : Parser GrammarTree := do
  let start ← nextOffset
  let name ← if ← isWord "this" then wordAs "this" else identifier
  word "is"
  let t ← call .type
  node "type_predicate" start [name, t]

/-- The word `asserts` and what is asserted. -/
def asserts : Parser GrammarTree := do
  let start ← nextOffset
  word "asserts"
  let inner ← typePredicate <|> do
    if ← isWord "this" then wordAs "this" else identifier
  node "asserts" start [inner]

/-- The annotation of a result: a type, or what the result says about
an argument. -/
def resultType : Parser GrammarTree := do
  let start ← nextOffset
  literal ":"
  match ← tryParse asserts with
  | some a => node "asserts_annotation" start [a]
  | none =>
      match ← tryParse typePredicate with
      | some p => node "type_predicate_annotation" start [p]
      | none => do
          let t ← call .type
          node "type_annotation" start [t]

def resultType? : Parser (List GrammarTree) := optionalPart do
  if (← isTyped) && (← isMark ":") then some <$> resultType else return none

/-- Type parameters, parameters and the type of the result. -/
def signature : Parser (List GrammarTree) := do
  let typeParameters ← typeParameters?
  let parameters ← call .parameters
  let result ← resultType?
  return typeParameters ++ [parameters] ++ result

end ScriptScout.Grammar.Parser
