import ScriptScout.Grammar.Markup
import ScriptScout.Grammar.Module

/-!
# Declarations, and which statement comes next

The declarations of typed scripts, and the choice between all
statements by the word or mark that comes next. A word that is only a
keyword in some places is read as a name where a statement may end
right behind it.
-/

namespace ScriptScout.Grammar.Parser

/-! ## Typed declarations -/

def extendsTypeClause? : Parser (List GrammarTree) := optionalPart do
  let start ← nextOffset
  if ← optionalWord "extends" then
    let types ← sepByComma namedType
    some <$> node "extends_type_clause" start types
  else return none

def interfaceDeclaration : Parser GrammarTree := do
  let start ← nextOffset
  word "interface"
  let name ← wordAs "type_identifier"
  let typeParameters ← typeParameters?
  let extension ← extendsTypeClause?
  let body ← objectTypeAs "interface_body"
  node "interface_declaration" start ([name] ++ typeParameters ++ extension ++ [body])

def typeAlias : Parser GrammarTree := do
  let start ← nextOffset
  word "type"
  let name ← wordAs "type_identifier"
  let typeParameters ← typeParameters?
  mark "="
  let t ← call .type
  semicolon ⟨false, false⟩
  node "type_alias_declaration" start ([name] ++ typeParameters ++ [t])

def enumMember : Parser GrammarTree := do
  let start ← nextOffset
  let name ← propertyName
  match ← initializer? with
  | [] => return name
  | value => node "enum_assignment" start (name :: value)

def enumDeclaration : Parser GrammarTree := do
  let start ← nextOffset
  let _ ← optionalWord "const"
  word "enum"
  let name ← identifier
  let bodyStart ← nextOffset
  literal "\x7b"
  let members ← enclosed do
    if ← optional "\x7d" then return []
    else commaListOne "\x7d" enumMember
  let body ← node "enum_body" bodyStart members
  node "enum_declaration" start [name, body]

/-- The name and the body of a namespace or a declared module. -/
def moduleTail : Parser (List GrammarTree) := do
  let name ← string <|> nestedIdentifier
  let body ← optionalPart do
    if ← startsWith "\x7b" then some <$> bodyOf false else return none
  return name :: body

def moduleDeclaration : Parser GrammarTree := do
  let start ← nextOffset
  word "module"
  let tail ← moduleTail
  node "module" start tail

def namespaceDeclaration : Parser GrammarTree := do
  let start ← nextOffset
  word "namespace"
  let tail ← moduleTail
  node "internal_module" start tail

def ambientDeclaration : Parser GrammarTree := do
  let start ← nextOffset
  word "declare"
  let global : Parser (List GrammarTree) := do
    word "global"
    return [← bodyOf false]
  let member : Parser (List GrammarTree) := do
    word "module"
    literal "."
    let name ← wordAs "property_identifier"
    literal ":"
    let t ← call .type
    semicolon ⟨false, false⟩
    return [name, t]
  let declared : Parser (List GrammarTree) := do return [← call .declaration]
  let parts ← declared <|> global <|> member
  node "ambient_declaration" start parts

/-- Could the word that comes next be a name with the end of the
statement right behind it? -/
def wordEndsStatement : Parser Bool := do
  return ((← behindWord).automaticEnd? (← dialect) ⟨true, false⟩).isSome

/-- A declaration of a typed script that starts with this word. -/
def typedDeclaration (w : String) : Parser GrammarTree := do
  ensure (← isTyped)
  match w with
  | "interface" => interfaceDeclaration
  | "enum" => enumDeclaration
  | "const" => enumDeclaration
  | "abstract" => classDeclaration
  | "import" => importAlias
  | _ =>
      ensure (!(← wordEndsStatement))
      match w with
      | "type" => typeAlias
      | "namespace" => namespaceDeclaration
      | "module" => moduleDeclaration
      | "declare" => ambientDeclaration
      | _ => failure

/-- Is the word `async` followed by `function`? -/
def startsAsyncFunction : Parser Bool := do
  if ← wordEndsStatement then return false
  let found ← peek do
    word "async"
    word "function"
  return found.isSome

/-- A declaration, by the word that comes next. -/
def declaration : Parser GrammarTree := do
  match ← nextWord with
  | some w =>
      typedDeclaration w <|> match w with
        | "function" => functionDeclaration
        | "async" => functionDeclaration
        | "class" => classDeclaration
        | "var" => variableDeclaration
        | "let" => lexicalDeclaration false
        | "const" => lexicalDeclaration false
        | _ => failure
  | none =>
      ensure (← startsWith "@")
      classDeclaration

/-! ## Statements -/

/-- A namespace as a statement of its own. Where a statement may end
behind it, it counts as an expression. -/
def namespaceStatement : Parser GrammarTree := do
  ensure (← isTyped)
  ensure (!(← wordEndsStatement))
  let start ← nextOffset
  let n ← namespaceDeclaration
  match (← get).automaticEnd? (← dialect) ⟨true, false⟩ with
  | some c =>
      set c
      node "expression_statement" start [n]
  | none => return n

/-- Does the word `import` start an expression? -/
def startsImportExpression : Parser Bool := do
  let next := ((← behindWord).skipTrivia false).rest.head?
  return next == some '(' || next == some '.'

/-- Is the word `export` just a name here? It is one at the end of a
statement, and before a mark that starts no export. -/
def exportIsName : Parser Bool := do
  if ← wordEndsStatement then return true
  let next := ((← behindWord).skipTrivia false).rest
  let typed ← isTyped
  return (mark? next).any fun m =>
    !(["*", "\x7b", "@"].contains m || (typed && m == "="))

/-- A statement that starts with this word. -/
def wordStatement (w : String) : Parser GrammarTree := do
  match w with
  | "var" => variableDeclaration
  | "const" => typedDeclaration w <|> lexicalDeclaration false
  | "let" => if ← startsLexical false then lexicalDeclaration false else labelOrExpression
  | "function" => functionDeclaration <|> expressionStatement
  | "async" =>
      if ← startsAsyncFunction then functionDeclaration <|> expressionStatement
      else labelOrExpression
  | "class" => classDeclaration <|> expressionStatement
  | "if" => ifStatement
  | "switch" => switchStatement
  | "for" => forInStatement <|> forStatement
  | "while" => whileStatement
  | "do" => doStatement
  | "try" => tryStatement
  | "with" => withStatement
  | "break" => jumpStatement "break" "break_statement"
  | "continue" => jumpStatement "continue" "continue_statement"
  | "debugger" => debuggerStatement
  | "return" => returnStatement
  | "throw" => throwStatement
  | "import" =>
      if ← startsImportExpression then expressionStatement
      else importStatement <|> typedDeclaration w
  | "export" => if ← exportIsName then labelOrExpression else exportStatement
  | "namespace" => namespaceStatement <|> labelOrExpression
  | _ => typedDeclaration w <|> labelOrExpression
where
  labelOrExpression : Parser GrammarTree :=
    labeledStatement <|> expressionStatement

def statement : Parser GrammarTree := do
  let _ ← operandOffset
  match ← rest with
  | '\x7b' :: _ =>
      if ← looksLikeObject then expressionStatement <|> blockStatement
      else blockStatement <|> expressionStatement
  | ';' :: _ => emptyStatement
  | '@' :: _ => classDeclaration <|> exportStatement <|> expressionStatement
  | cs =>
      match wordLength? cs with
      | some n => wordStatement (String.ofList (cs.take n))
      | none => expressionStatement

end ScriptScout.Grammar.Parser
