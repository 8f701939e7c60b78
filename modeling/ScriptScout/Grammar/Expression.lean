import ScriptScout.Grammar.Class

/-!
# Expressions

An expression is an operand with marks behind it (`suffix`), with
prefix operators in front of it (`unary`), and with binary operators
between such (`binary`), which bind by level. An assignment starts at
any operand that can be assigned to and takes in all that follows.
-/

namespace ScriptScout.Grammar

/-- How tightly a binary operator binds, and whether it binds to the
right. Level 1 is left to the type operators, and level 2 is shared
with the conditional expression. -/
def binaryLevel : String → Option (Nat × Bool)
  | "??" => some (2, false)
  | "||" => some (3, false)
  | "&&" => some (4, false)
  | "|" => some (5, false)
  | "^" => some (6, false)
  | "&" => some (7, false)
  | "==" | "!=" | "===" | "!==" => some (8, false)
  | "<" | ">" | "<=" | ">=" | "in" | "instanceof" => some (9, false)
  | "<<" | ">>" | ">>>" => some (10, false)
  | "+" | "-" => some (11, false)
  | "*" | "/" | "%" => some (12, false)
  | "**" => some (14, true)
  | _ => none

def isAssignmentMark (m : String) : Bool :=
  ["+=", "-=", "*=", "/=", "%=", "^=", "&=", "|=", ">>=", ">>>=", "<<=", "**=",
    "&&=", "||=", "??="].contains m

namespace Parser

/-! ## Objects and arrays -/

def spreadElement : Parser GrammarTree := do
  let start ← operandOffset
  literal "..."
  let e ← call .expression
  node "spread_element" start [e]

/-- A property that is only a name, or a name with the default value
of a pattern. -/
def shorthand : Parser GrammarTree := do
  let start ← nextOffset
  let name ← wordAs "shorthand_property_identifier"
  if ← isMark "=" then
    literal "="
    let v ← call .expression
    node "object_assignment_pattern" start
      [name.withKind "shorthand_property_identifier_pattern", v]
  else return name

/-- The modifiers of a method in an object. -/
def methodModifiers : Parser (List GrammarTree) := do
  let found ← many do
    if ← optional "*" then return some []
    match ← nextWord with
    | some w =>
        if ["static", "async", "get", "set", "readonly"].contains w
            && (w != "readonly" || (← isTyped)) && (← isModifier startsMember) then
          literal w
          return some []
        else if (← isTyped) && ["public", "private", "protected"].contains w
            && (← isModifier startsMember) then
          return some [← wordAs "accessibility_modifier"]
        else return none
    | none => return none
  return found.flatten

def methodOrPair : Parser GrammarTree := do
  let start ← nextOffset
  let decorators ← decorators
  let modifiers ← methodModifiers
  let name ← propertyName
  if ← isTyped then
    let _ ← optional "?"
  if (← isMark "(") || ((← isTyped) && (← startsWith "<")) then
    let signature ← signature
    let body ← bodyOf false
    node "method_definition" start (decorators ++ modifiers ++ [name] ++ signature ++ [body])
  else
    mark ":"
    let v ← call .expression
    node "pair" start [name.withRole .key, v.withRole .value]

def objectItem : Parser GrammarTree := do
  if ← startsWith "..." then spreadElement
  else
    match ← peek shorthandEnd with
    | some () => shorthand
    | none => methodOrPair
where
  /-- A word with the end of the property behind it. -/
  shorthandEnd : Parser Unit := do
    let _ ← wordAs "shorthand_property_identifier"
    let m ← nextMark
    ensure (m == some "," || m == some "\x7d" || m == some "=")

def objectLiteral : Parser GrammarTree := do
  let start ← nextOffset
  literal "\x7b"
  let items ← enclosed (commaList "\x7d" objectItem)
  node "object" start items

def arrayLiteral : Parser GrammarTree := do
  let start ← nextOffset
  literal "["
  let items ← enclosed <| commaList "]" do
    let _ ← operandOffset
    if ← startsWith "..." then spreadElement else call .expression
  node "array" start items

/-! ## Parentheses and arrow functions -/

/-- Expressions as one: a single one, or a sequence. -/
def sequence (items : List GrammarTree) : Option GrammarTree :=
  match items with
  | [] => none
  | [e] => some e
  | first :: others =>
      let stop := (others.getLast?.map (·.span.stop)).getD first.span.stop
      some (.node { kind := "sequence_expression", span := ⟨first.span.start, stop⟩ } items)

/-- Parentheses around expressions, or around the parameters of an
arrow function. -/
def plainParentheses : Parser GrammarTree := do
  let start ← nextOffset
  literal "("
  let list ← parenthesisList
  if ← isMark "=>" then
    let parameters ← fromOption (toParameters start (← offset) list.items)
    arrowFrom start [parameters]
  else
    ensure (!list.trailing && list.items.all (·.kind != "spread_element"))
    let e ← fromOption (sequence list.items)
    node "parenthesized_expression" start [e]

/-- As `plainParentheses` in a typed script, where parameters have
types and an expression may have one. -/
def typedParentheses : Parser GrammarTree := do
  let start ← nextOffset
  arrowOfSignature start <|> do
    literal "("
    let parts ← enclosed do
      let e ← call .expressions
      return e :: (← typedAs?)
    literal ")"
    node "parenthesized_expression" start parts

def parentheses : Parser GrammarTree := do
  if ← isTyped then typedParentheses else plainParentheses

/-- What starts with the word `async`: a function, an arrow function,
or just that name. -/
def asyncOperand : Parser GrammarTree := do
  let start ← nextOffset
  let ends := ((← behindWord).automaticEnd? (← dialect) ⟨true, false⟩).isSome
  let plainName := wordAs "identifier"
  if ends && !(← get).enclosed then plainName
  else
    (do
      word "async"
      if ← isWord "function" then functionExpression start
      else if (← nextWord).isSome then arrowOfName start
      else if ← isTyped then arrowOfSignature start
      else
        let open_ ← nextOffset
        literal "("
        let list ← parenthesisList
        let parameters ← fromOption (toParameters open_ (← offset) list.items)
        arrowFrom start [parameters])
    <|> arrowOfName start <|> plainName

/-! ## Marks behind an operand -/

/-- The name behind a dot. -/
def memberName : Parser GrammarTree := do
  if ← startsWith "#" then privateName else wordAs "property_identifier"

def memberOf (object : GrammarTree) : Parser GrammarTree := do
  let property ← memberName
  node "member_expression" object.span.start
    [object.withRole .object, property.withRole .property]

def subscriptOf (object : GrammarTree) : Parser GrammarTree := do
  literal "["
  let index ← enclosed (call .expressions)
  literal "]"
  node "subscript_expression" object.span.start
    [object.withRole .object, index.withRole .index]

def callOf (function : GrammarTree) (typeArguments : List GrammarTree) :
    Parser GrammarTree := do
  let args ← arguments
  node "call_expression" function.span.start
    ([function.withRole .function] ++ typeArguments ++ [args.withRole .arguments])

def taggedOf (tag : GrammarTree) : Parser GrammarTree := do
  let quasi ← template
  node "call_expression" tag.span.start
    [tag.withRole .function, quasi.withRole .arguments]

/-- What stands behind `?.`: a name, a subscript or arguments. -/
def chainOf (object : GrammarTree) : Parser GrammarTree := do
  literal "?."
  if ← isMark "[" then subscriptOf object
  else if ← isMark "(" then callOf object []
  else if (← isTyped) && (← startsWith "<") then
    let typeArguments ← call .typeArguments
    callOf object [typeArguments]
  else memberOf object

/-- The words that go on an expression or end it, and start none. -/
def joiningWords : List String :=
  ["in", "instanceof", "as", "satisfies", "of", "extends", "implements"]

/-- Could the text go on with an operand? -/
def startsOperand : List Char → Bool
  | [] => false
  | c :: cs =>
      (wordLength? (c :: cs)).any (fun n =>
        !joiningWords.contains (String.ofList ((c :: cs).take n)))
        || isDigit c || "\"'\x60([\x7b+-!~</@#".toList.contains c

/-- Type arguments behind an expression: of a call, or of nothing. -/
def instantiationOf (e : GrammarTree) : Parser GrammarTree := do
  let typeArguments ← call .typeArguments
  if ← isMark "(" then callOf e [typeArguments]
  else
    let ends ← endsExpression
    ensure (ends || !(startsOperand (← ahead)))
    node "instantiation_expression" e.span.start [e, typeArguments]

/-- The next mark behind an operand. `calls` says whether arguments
belong to it, and `bang` whether a `!` does. -/
def suffix (calls bang : Bool) (e : GrammarTree) : Parser (Option GrammarTree) := do
  if ← endsExpression then return none
  match ← nextMark with
  | some "." =>
      literal "."
      some <$> memberOf e
  | some "?." => some <$> chainOf e
  | some "[" => some <$> subscriptOf e
  | some "(" => if calls then some <$> callOf e [] else return none
  | some "\x60" => some <$> taggedOf e
  | some m =>
      if m == "++" || m == "--" then
        if calls then
          literal m
          some <$> node "update_expression" e.span.start [e]
        else return none
      else if m == "!" && bang && (← isTyped) then
        literal "!"
        some <$> node "non_null_expression" e.span.start [e]
      else if (m == "<" || m == "<<") && calls && (← isTyped) then
        tryParse (instantiationOf e)
      else return none
  | none => return none

/-! ## Operands -/

/-- What starts with the word `new`. -/
def newExpression (callee : Parser GrammarTree) : Parser GrammarTree := do
  let start ← nextOffset
  word "new"
  if ← isMark "." then
    literal "."
    word "target"
    node "meta_property" start []
  else
    let callee ← callee
    let typeArguments ← optionalPart do
      if (← isTyped) && (← startsWith "<") then tryParse (call .typeArguments)
      else return none
    let args ← optionalPart do
      if ← endsExpression then return none
      else if ← isMark "(" then some <$> arguments
      else return none
    node "new_expression" start
      ([callee.withRole .constructor] ++ typeArguments ++ args.map (·.withRole .arguments))

/-- What starts with the word `import`: a call, a member, or what is
known about the module. -/
def importOperand : Parser GrammarTree := do
  let start ← nextOffset
  let keyword ← wordAs "import"
  if ← isMark "." then
    literal "."
    if ← optionalWord "meta" then node "meta_property" start []
    else memberOf keyword
  else if (← isTyped) && (← startsWith "<") then
    let typeArguments ← call .typeArguments
    callOf keyword [typeArguments]
  else callOf keyword []

def isArrow : Parser Bool := isMark "=>"

/-- An operand that starts with a word. -/
def wordOperand (w : String) : Parser GrammarTree := do
  let start ← nextOffset
  match w with
  | "function" => functionExpression start
  | "async" => asyncOperand
  | "class" => classExpression
  | "this" | "super" | "true" | "false" | "null" | "undefined" => wordAs w
  | "import" => importOperand
  | _ =>
      let name ← identifier
      if ← isArrow then arrowFrom start [name] else return name

/-- Markup, or what else a typed script can start with an angle. -/
def angleOperand : Parser GrammarTree := do
  let start ← nextOffset
  match ← dialect with
  | .plain => call .element
  | .typedMarkup => call .element <|> arrowOfSignature start
  | .typed => arrowOfSignature start

/-- The core of an operand, without marks behind it. -/
def primary : Parser GrammarTree := do
  match ← rest with
  | [] => failure
  | c :: cs =>
      if c == '"' || c == '\x27' then string
      else if c == '\x60' then template
      else if isDigit c || (c == '.' && cs.head?.any isDigit) then number
      else if c == '/' then regex
      else if c == '(' then parentheses
      else if c == '[' then call .arrayLiteral
      else if c == '\x7b' then call .objectLiteral
      else if c == '<' then angleOperand
      else if c == '@' then classExpression
      else
        match wordLength? (c :: cs) with
        | some n => wordOperand (String.ofList ((c :: cs).take n))
        | none => failure

/-- The callee of `new`: an operand with members, but no arguments. -/
def newCallee : Nat → Parser GrammarTree
  | 0 => failure
  | fuel + 1 => do
      let _ ← operandOffset
      let core ←
        if ← isWord "new" then newExpression (newCallee fuel) else primary
      grow (suffix false false) core

/-- An operand with the marks behind it. -/
def operand (bang : Bool) : Parser GrammarTree := do
  let _ ← operandOffset
  let core ←
    if ← isWord "new" then
      let name : Parser GrammarTree := do
        if ← isTyped then identifier else failure
      newExpression (newCallee ((← rest).length + 1)) <|> name
    else primary
  grow (suffix true bang) core

/-! ## Prefix operators and assignments -/

/-- An assignment, if the operand before it can be assigned to and an
assignment mark comes next. -/
def assignmentTo (left : GrammarTree) : Parser GrammarTree := do
  match ← nextMark with
  | some "=" =>
      let target := if left.kind == "parenthesized_expression" then some left
        else toPattern left
      match target with
      | none => return left
      | some target =>
          literal "="
          let right ← call .expression
          node "assignment_expression" left.span.start
            [target.withRole .left, right.withRole .right]
  | some m =>
      if isAssignmentMark m && ["identifier", "undefined", "member_expression",
          "subscript_expression", "parenthesized_expression",
          "non_null_expression"].contains left.kind then
        let operator ← operatorToken m
        let right ← call .expression
        node "augmented_assignment_expression" left.span.start
          [left.withRole .left, operator, right.withRole .right]
      else return left
  | none => return left

def prefixed (kind text : String) : Parser GrammarTree := do
  let start ← nextOffset
  literal text
  let e ← call (.unary false)
  node kind start [e]

/-- A type operator behind an expression, if one comes next. -/
def typeOperator? (e : GrammarTree) : Parser (Option GrammarTree) := do
  if !(← isTyped) then return none
  if ← endsExpression then return none
  if ← optionalWord "as" then
    if ← optionalWord "const" then some <$> node "as_expression" e.span.start [e]
    else
      let t ← call .type
      some <$> node "as_expression" e.span.start [e, t]
  else if ← optionalWord "satisfies" then
    let t ← call .type
    some <$> node "satisfies_expression" e.span.start [e, t]
  else return none

def awaitExpression : Parser GrammarTree := do
  let start ← nextOffset
  word "await"
  let e ← call (.unary true)
  let e ← grow typeOperator? e
  node "await_expression" start [e]

def yieldExpression : Parser GrammarTree := do
  let start ← nextOffset
  word "yield"
  if ← endsExpression then node "yield_expression" start []
  else if ← optional "*" then
    let e ← call .expression
    node "yield_expression" start [e]
  else
    let e ← optionalPart do
      if startsOperand (← ahead) then tryParse (call .expression) else return none
    node "yield_expression" start e

/-- A type in angles in front of an operand. -/
def typeAssertion : Parser GrammarTree := do
  let start ← nextOffset
  let typeArguments ← call .typeArguments
  let e ← (do
    let _ ← operandOffset
    let core ← primary
    grow (fun e => do
      if ← endsExpression then return none
      else if ← isMark "(" then some <$> callOf e []
      else return none) core) <|> call (.unary false)
  node "type_assertion" start [typeArguments, e]

/-- A private name, which can only be looked for with `in`. -/
def privateOperand : Parser GrammarTree := do
  let name ← privateName
  ensure (← isWord "in")
  return name

/-- An operand with its prefix operators. -/
def unary (bang : Bool) : Parser GrammarTree := do
  let _ ← operandOffset
  match ← nextMark with
  | some m =>
      if m == "++" || m == "--" then prefixed "update_expression" m
      else
        match m.toList with
        | '!' :: _ => prefixed "unary_expression" "!"
        | '~' :: _ => prefixed "unary_expression" "~"
        | '+' :: _ => prefixed "unary_expression" "+"
        | '-' :: _ => prefixed "unary_expression" "-"
        | '#' :: _ => privateOperand
        | '<' :: _ =>
            if (← dialect) == .typed then
              let start ← nextOffset
              let e ← arrowOfSignature start <|> typeAssertion
              assignmentTo (← grow (suffix true bang) e)
            else assignmentTo (← operand bang)
        | _ => assignmentTo (← operand bang)
  | none =>
      match ← nextWord with
      | some "typeof" => prefixed "unary_expression" "typeof"
      | some "void" => prefixed "unary_expression" "void"
      | some "delete" => prefixed "unary_expression" "delete"
      | some "await" => awaitExpression
      | some "yield" => yieldExpression
      | _ => assignmentTo (← operand bang)

/-! ## Binary operators -/

/-- The middle and the end of a conditional expression. In a typed
script, parentheses before the colon may have looked like an arrow
function with a result type; then they are read again without. -/
def conditionalTail : Parser (List GrammarTree) := do
  let typed ← isTyped
  let middle (plainArrows : Bool) : Parser GrammarTree := do
    let e ← withFlags true plainArrows (call .expression)
    ensure (← startsWith ":")
    return e
  let consequence ← middle false <|> (do ensure typed; middle true)
  literal ":"
  let alternative ← call .expression
  return [consequence, alternative]

/-- The operator that comes next, as a mark or a word. -/
def nextOperator : Parser (Option String) := do
  match ← nextMark with
  | some m => return some m
  | none =>
      match ← nextWord with
      | some w => return if w == "in" || w == "instanceof" then some w else none
      | none => return none

/-- Takes in the next operator, if it binds at least as tightly as
`level`. -/
def binaryStep (level : Nat) (left : GrammarTree) : Parser (Option GrammarTree) := do
  if ← endsExpression then return none
  match ← nextOperator with
  | some "?" =>
      if level ≤ 2 then
        literal "?"
        let tail ← conditionalTail
        some <$> node "ternary_expression" left.span.start (left :: tail)
      else return none
  | some "!" =>
      if level ≤ 1 && (← isTyped) then
        literal "!"
        let e ← node "non_null_expression" left.span.start [left]
        let e ← grow (suffix true true) e
        some <$> assignmentTo e
      else return none
  | some op =>
      match binaryLevel op with
      | some (l, rightward) =>
          if level ≤ l then
            let operator ← operatorToken op
            let right ← call (.binary (if rightward then l else l + 1))
            some <$> node "binary_expression" left.span.start
              [left.withRole .left, operator, right.withRole .right]
          else return none
      | none => return none
  | none => if level ≤ 1 then typeOperator? left else return none

/-- A binary expression whose operators bind at least as tightly as
`level`. -/
def binary (level : Nat) : Parser GrammarTree := do
  let rightward := level == 14
  let left ← call (.unary (level ≤ 1 || rightward))
  let e ← grow (binaryStep level) left
  if rightward then grow typeOperator? e else return e

def expression : Parser GrammarTree := call (.binary 1)

/-- One expression, or several with commas between. -/
def expressions : Parser GrammarTree := do
  let first ← call .expression
  let others ← many do
    if ← isMark "," then
      literal ","
      return some (← call .expression)
    else return none
  fromOption (sequence (first :: others))

end Parser

end ScriptScout.Grammar
