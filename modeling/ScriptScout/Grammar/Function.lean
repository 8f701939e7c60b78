import ScriptScout.Grammar.Signature

/-!
# Functions

Functions as expressions, arrow functions, and what stands between
parentheses before it is known which of the two it belongs to.
-/

namespace ScriptScout.Grammar.Parser

/-- A block as the body of something; `expr` says whether that is an
expression. Behind a body a statement may end, and then the body
reaches up to there. -/
def bodyOf (expr : Bool) : Parser GrammarTree := do
  let body ← call .block
  optionalEnd ⟨expr, false⟩
  match body with
  | .node label parts =>
      let stop ← offset
      return .node { label with span := ⟨label.span.start, stop⟩ } parts

/-- A function as an expression, from the word `function` on; `start`
is where it starts, which may be at `async`. -/
def functionExpression (start : Nat) : Parser GrammarTree := do
  word "function"
  let generator ← optional "*"
  let name ← optionalPart do
    if (← nextWord).isSome then some <$> identifier else return none
  let signature ← signature
  let body ← bodyOf true
  node (if generator then "generator_function" else "function_expression") start
    (name ++ signature ++ [body])

/-! ## Arrow functions -/

/-- Does an object literal come next, rather than a block, judging by
a name with a colon behind it? -/
def looksLikeObject : Parser Bool := do
  let found ← peek do
    literal "\x7b"
    let _ ← wordAs "identifier"
    mark ":"
  return found.isSome

/-- The body of an arrow function: a block or an expression. -/
def arrowBody : Parser GrammarTree := do
  if ← startsWith "\x7b" then
    if ← looksLikeObject then call .expression <|> bodyOf true
    else bodyOf true <|> call .expression
  else call .expression

/-- The arrow and the body, behind the parameters. -/
def arrowFrom (start : Nat) (head : List GrammarTree) : Parser GrammarTree := do
  mark "=>"
  let body ← arrowBody
  node "arrow_function" start (head ++ [body])

/-- An arrow function with a single plain parameter. -/
def arrowOfName (start : Nat) : Parser GrammarTree := do
  let name ← identifier
  arrowFrom start [name]

/-- An arrow function of a typed script, from its signature on. -/
def arrowOfSignature (start : Nat) : Parser GrammarTree := do
  let typeParameters ← typeParameters?
  let parameters ← call .parameters
  let result ← if (← get).plainArrows then pure [] else resultType?
  arrowFrom start (typeParameters ++ [parameters] ++ result)

/-- What stands between parentheses: expressions, perhaps with rest
elements among them. -/
structure ParenthesisList where
  items : List GrammarTree
  /-- A comma stands behind the last item. -/
  trailing : Bool

def parenthesisItem : Parser GrammarTree := do
  let start ← operandOffset
  if ← startsWith "..." then
    literal "..."
    let e ← call .expression
    node "spread_element" start [e]
  else call .expression

/-- Reads up to and with the closing parenthesis. -/
def parenthesisList : Parser ParenthesisList := enclosed do
  if ← optional ")" then return ⟨[], false⟩
  let first ← parenthesisItem
  let others ← many do
    if ← optional "," then
      if ← startsWith ")" then return some none
      else return some (some (← parenthesisItem))
    else return none
  literal ")"
  return ⟨first :: others.filterMap id, others.any Option.isNone⟩

/-- Items as the parameters of an arrow function. -/
def toParameters (start stop : Nat) (items : List GrammarTree) : Option GrammarTree :=
  (toElements items).map fun parts =>
    .node { kind := "formal_parameters", span := ⟨start, stop⟩ } parts

end ScriptScout.Grammar.Parser
