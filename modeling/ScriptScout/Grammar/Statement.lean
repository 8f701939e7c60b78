import ScriptScout.Grammar.Type

/-!
# Statements

Statements and plain declarations. A statement's node reaches up to
the place where the statement ends, its semicolon included.
-/

namespace ScriptScout.Grammar.Parser

/-! ## Variables -/

def declarator : Parser GrammarTree := do
  let start ← nextOffset
  let name ← binding
  if (← isTyped) && (← isMark "!") then
    literal "!"
    let typing ← typedAs
    node "variable_declarator" start [name.withRole .name, typing]
  else
    let typing ← typedAs?
    let value ← initializer?
    node "variable_declarator" start ([name.withRole .name] ++ typing ++ value)

/-- Is the last declarator one that ends with an expression? -/
def endsWithValue (declarators : List GrammarTree) : Bool :=
  declarators.getLast?.any fun d => (d.inRole? .value).isSome

/-- Declarators up to the end of the statement. -/
def declaratorsAs (kind : String) (start : Nat) : Parser GrammarTree := do
  let declarators ← sepByComma declarator
  semicolon ⟨endsWithValue declarators, false⟩
  node kind start declarators

def variableDeclaration : Parser GrammarTree := do
  let start ← nextOffset
  word "var"
  declaratorsAs "variable_declaration" start

/-- Does the word `let` start a declaration here? In the head of a loop
(`loop`) the word `of` behind it says otherwise. -/
def startsLexical (loop : Bool) : Parser Bool := do
  let c ← behindWord
  let next := (c.skipTrivia false).rest
  let ends := !(c.enclosed) && (c.automaticEnd? (← dialect) ⟨true, false⟩).isSome
  let starts := next.head?.any startsBinding
    || (wordLength? next).any fun n =>
      !(["in", "instanceof"] ++ if loop then ["of"] else []).contains
        (String.ofList (next.take n))
  return !ends && starts

def lexicalDeclaration (loop : Bool) : Parser GrammarTree := do
  let start ← nextOffset
  if !(← optionalWord "const") then
    ensure (← startsLexical loop)
    word "let"
  declaratorsAs "lexical_declaration" start

/-! ## Functions and classes -/

/-- A function declaration. In a typed script the body may be missing. -/
def functionDeclaration : Parser GrammarTree := do
  let start ← nextOffset
  let _ ← optionalWord "async"
  word "function"
  let generator ← optional "*"
  let name ← identifier
  let signature ← signature
  let kind := if generator then "generator_function_declaration" else "function_declaration"
  let bodiless := (← isTyped)
    && ((← get).automaticEnd? (← dialect) ⟨false, true⟩).isSome
  if bodiless || ((← isTyped) && (← startsWith ";")) then
    semicolon ⟨false, true⟩
    node "function_signature" start ([name] ++ signature)
  else
    let body ← bodyOf false
    optionalEnd ⟨false, false⟩
    node kind start ([name] ++ signature ++ [body])

def classDeclaration : Parser GrammarTree := do
  let start ← nextOffset
  let decorators ← decorators
  let isAbstract ← if ← isTyped then optionalWord "abstract" else pure false
  word "class"
  let name ← className
  let tail ← classTail
  if isAbstract then
    node "abstract_class_declaration" start (decorators ++ [name] ++ tail)
  else
    optionalEnd ⟨false, false⟩
    node "class_declaration" start (decorators ++ [name] ++ tail)

/-! ## Compound statements -/

def parenthesized : Parser GrammarTree := do
  let start ← nextOffset
  literal "("
  let parts ← enclosed do
    let e ← call .expressions
    return e :: (← typedAs?)
  literal ")"
  node "parenthesized_expression" start parts

/-- A block as a statement: it ends like one. -/
def blockStatement : Parser GrammarTree := bodyOf false

def statementList : Parser (List GrammarTree) := opened <| many do
  let _ ← operandOffset
  if ← startsWith "\x7d" then return none
  else some <$> call .statement

def block : Parser GrammarTree := do
  let start ← nextOffset
  literal "\x7b"
  let statements ← statementList
  literal "\x7d"
  node "statement_block" start statements

def ifStatement : Parser GrammarTree := do
  let start ← nextOffset
  word "if"
  let condition ← parenthesized
  let consequence ← call .statement
  let alternative ← optionalPart do
    let start ← nextOffset
    if ← optionalWord "else" then
      let s ← call .statement
      some <$> node "else_clause" start [s]
    else return none
  node "if_statement" start ([condition, consequence] ++ alternative)

def switchClause : Parser (Option GrammarTree) := do
  let start ← nextOffset
  let statements : Parser (List GrammarTree) := opened <| many do
    let _ ← operandOffset
    if (← startsWith "\x7d") || (← isWord "case") || (← isWord "default") then return none
    else some <$> call .statement
  if ← optionalWord "case" then
    let value ← enclosed (call .expressions)
    literal ":"
    let body ← statements
    some <$> node "switch_case" start (value :: body)
  else if ← optionalWord "default" then
    literal ":"
    let body ← statements
    some <$> node "switch_default" start body
  else return none

def switchStatement : Parser GrammarTree := do
  let start ← nextOffset
  word "switch"
  let value ← parenthesized
  let bodyStart ← nextOffset
  literal "\x7b"
  let clauses ← many switchClause
  literal "\x7d"
  let body ← node "switch_body" bodyStart clauses
  node "switch_statement" start [value, body]

/-- The head of a loop over the keys or elements of something. -/
def loopHeader : Parser (List GrammarTree) := do
  literal "("
  let target ← enclosed do
    let declared : Parser (List GrammarTree) := do
      if ← optionalWord "var" then
        let b ← binding
        let value ← optionalPart do
          if ← isMark "=" then
            literal "="
            some <$> call (.binary 10)
          else return none
        return b :: value
      else
        if !(← optionalWord "const") then
          ensure (← startsLexical true)
          word "let"
        return [← binding]
    let plain : Parser (List GrammarTree) := do
      let e ← operand true
      if e.kind == "parenthesized_expression" then return [e]
      else return [← fromOption (toPattern e)]
    let parts ← declared <|> plain
    word "in" <|> word "of"
    return parts
  let source ← enclosed (call .expressions)
  literal ")"
  return target ++ [source]

def forInStatement : Parser GrammarTree := do
  let start ← nextOffset
  word "for"
  let _ ← optionalWord "await"
  let header ← loopHeader
  let body ← call .statement
  node "for_in_statement" start (header ++ [body])

def emptyStatement : Parser GrammarTree := do
  let start ← nextOffset
  literal ";"
  node "empty_statement" start []

/-- An expression with a semicolon behind it, or just a semicolon. -/
def loopPart : Parser GrammarTree := do
  if ← startsWith ";" then emptyStatement
  else
    let e ← enclosed (call .expressions)
    literal ";"
    return e

def forStatement : Parser GrammarTree := do
  let start ← nextOffset
  word "for"
  literal "("
  let first ←
    opened variableDeclaration <|> opened (lexicalDeclaration true) <|> loopPart
  let condition ← loopPart
  let step ← optionalPart do
    if ← startsWith ")" then return none else some <$> enclosed (call .expressions)
  literal ")"
  let body ← call .statement
  node "for_statement" start ([first, condition] ++ step ++ [body])

def whileStatement : Parser GrammarTree := do
  let start ← nextOffset
  word "while"
  let condition ← parenthesized
  let body ← call .statement
  node "while_statement" start [condition, body]

def doStatement : Parser GrammarTree := do
  let start ← nextOffset
  word "do"
  let body ← call .statement
  word "while"
  let condition ← parenthesized
  let _ ← tryParse (semicolon ⟨false, false⟩)
  node "do_statement" start [body, condition]

def catchClause : Parser GrammarTree := do
  let start ← nextOffset
  word "catch"
  let parameter ←
    if ← optional "(" then
      let parts ← enclosed do
        let b ← binding
        return b :: (← typedAs?)
      literal ")"
      pure parts
    else pure []
  let body ← bodyOf false
  node "catch_clause" start (parameter ++ [body])

def tryStatement : Parser GrammarTree := do
  let start ← nextOffset
  word "try"
  let body ← bodyOf false
  let handler ← optionalPart do
    if ← isWord "catch" then some <$> catchClause else return none
  let finalizer ← optionalPart do
    let start ← nextOffset
    if ← optionalWord "finally" then
      let body ← bodyOf false
      some <$> node "finally_clause" start [body]
    else return none
  node "try_statement" start ([body] ++ handler ++ finalizer)

def withStatement : Parser GrammarTree := do
  let start ← nextOffset
  word "with"
  let object ← parenthesized
  let body ← call .statement
  node "with_statement" start [object, body]

/-! ## Simple statements -/

/-- A jump with an optional label. -/
def jumpStatement (w kind : String) : Parser GrammarTree := do
  let start ← nextOffset
  word w
  let ends := ((← get).automaticEnd? (← dialect) ⟨false, false⟩).isSome
  let label ← optionalPart do
    if !ends && (← nextWord).isSome then some <$> wordAs "statement_identifier"
    else return none
  semicolon ⟨false, false⟩
  node kind start label

def debuggerStatement : Parser GrammarTree := do
  let start ← nextOffset
  word "debugger"
  semicolon ⟨false, false⟩
  node "debugger_statement" start []

def returnStatement : Parser GrammarTree := do
  let start ← nextOffset
  word "return"
  let ends := ((← get).automaticEnd? (← dialect) ⟨false, false⟩).isSome
  if ends || (← startsWith ";") then
    semicolon ⟨false, false⟩
    node "return_statement" start []
  else
    let e ← call .expressions
    semicolon ⟨true, false⟩
    node "return_statement" start [e]

def throwStatement : Parser GrammarTree := do
  let start ← nextOffset
  word "throw"
  let e ← call .expressions
  semicolon ⟨true, false⟩
  node "throw_statement" start [e]

def labeledStatement : Parser GrammarTree := do
  let start ← nextOffset
  let label ← wordAs "statement_identifier"
  mark ":"
  let body ← call .statement
  node "labeled_statement" start [label, body]

def expressionStatement : Parser GrammarTree := do
  let start ← operandOffset
  let e ← call .expressions
  semicolon ⟨true, false⟩
  node "expression_statement" start [e]

end ScriptScout.Grammar.Parser
