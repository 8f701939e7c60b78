import ScriptScout.Grammar.Statement

/-!
# Imports and exports
-/

namespace ScriptScout.Grammar.Parser

/-- Does a statement end right here, where no expression stands before
the cursor? -/
def endsStatement : Parser Bool := do
  return ((← get).automaticEnd? (← dialect) ⟨false, false⟩).isSome

def fromClause : Parser GrammarTree := do
  word "from"
  string

/-- A name as modules export it: a word or a string. -/
def exportName : Parser GrammarTree := do
  match ← ahead with
  | c :: _ => if c == '"' || c == '\x27' then string else identifier
  | [] => failure

/-- A name and perhaps, behind `as`, another. -/
def renamed (kind : String) : Parser GrammarTree := do
  let start ← nextOffset
  let name ← exportName
  let newName ← optionalPart do
    if ← optionalWord "as" then some <$> exportName else return none
  node kind start (name :: newName)

/-- As `renamed`; in a typed script the word `type` may stand in
front. -/
def specifier (kind : String) : Parser GrammarTree := do
  let start ← nextOffset
  let close : Parser Unit := do
    ensure ((← startsWith ",") || (← startsWith "\x7d"))
  let plain : Parser GrammarTree := do
    let s ← renamed kind
    close
    return s
  let marked : Parser GrammarTree := do
    ensure (← isTyped)
    word "type" <|> word "typeof"
    let s ← renamed kind
    close
    node kind start s.parts
  plain <|> marked

def specifiers (kind item : String) : Parser GrammarTree := do
  let start ← nextOffset
  literal "\x7b"
  let items ← enclosed do
    if ← optional "\x7d" then return []
    else commaListOne "\x7d" (specifier item)
  node kind start items

/-! ## Imports -/

def namespaceImport : Parser GrammarTree := do
  let start ← nextOffset
  literal "*"
  word "as"
  let name ← identifier
  node "namespace_import" start [name]

def namedImports : Parser GrammarTree := specifiers "named_imports" "import_specifier"

def importList : Parser GrammarTree := namespaceImport <|> namedImports

def importClause : Parser GrammarTree := do
  let start ← nextOffset
  if (← nextWord).isSome then
    let name ← identifier
    let others ← optionalPart do
      if ← optional "," then some <$> importList else return none
    node "import_clause" start (name :: others)
  else
    let list ← importList
    node "import_clause" start [list]

def requireClause : Parser GrammarTree := do
  let start ← nextOffset
  let name ← identifier
  mark "="
  word "require"
  literal "("
  let source ← string
  literal ")"
  node "import_require_clause" start [name, source]

def importAttribute? : Parser (List GrammarTree) := optionalPart do
  if ← endsStatement then return none
  let start ← nextOffset
  if (← isWord "with") || (← isWord "assert") then
    let _ ← wordAs "with"
    let o ← call .objectLiteral
    some <$> node "import_attribute" start [o]
  else return none

/-- What is imported, and where from. -/
def importBody : Parser (List GrammarTree) := do
  let fromModule : Parser (List GrammarTree) := do
    let clause ← importClause
    let source ← fromClause
    return [clause, source]
  let required : Parser (List GrammarTree) := do
    ensure (← isTyped)
    return [← requireClause]
  let bare : Parser (List GrammarTree) := do return [← string]
  fromModule <|> required <|> bare

def importStatement : Parser GrammarTree := do
  let start ← nextOffset
  word "import"
  let marked : Parser (List GrammarTree) := do
    ensure (← isTyped)
    word "type" <|> word "typeof"
    importBody
  let body ← importBody <|> marked
  let attributes ← importAttribute?
  semicolon ⟨false, false⟩
  node "import_statement" start (body ++ attributes)

/-- A name with dots. -/
def nestedIdentifier : Parser GrammarTree := do
  let start ← nextOffset
  grow (fun t => do
    if ← isMark "." then
      literal "."
      let p ← wordAs "property_identifier"
      some <$> node "nested_identifier" start [t.withRole .object, p.withRole .property]
    else return none) (← identifier)

def importAlias : Parser GrammarTree := do
  let start ← nextOffset
  word "import"
  let name ← identifier
  mark "="
  let target ← nestedIdentifier
  semicolon ⟨false, false⟩
  node "import_alias" start [name, target]

/-! ## Exports -/

def namespaceExport : Parser GrammarTree := do
  let start ← nextOffset
  literal "*"
  word "as"
  let name ← exportName
  node "namespace_export" start [name]

def exportClause : Parser GrammarTree := specifiers "export_clause" "export_specifier"

/-- Exports of names, perhaps out of another module. -/
def exportNames : Parser (List GrammarTree) := do
  let all : Parser (List GrammarTree) := do
    let ns ← (do return [← namespaceExport]) <|> (do literal "*"; return [])
    return ns ++ [← fromClause]
  let some_ : Parser (List GrammarTree) := do
    let clause ← exportClause
    let source ← optionalPart do
      if ← endsStatement then return none
      else if ← isWord "from" then some <$> fromClause
      else return none
    return clause :: source
  let parts ← all <|> some_
  semicolon ⟨false, false⟩
  return parts

/-- The default export: a declaration or an expression. -/
def exportDefault : Parser (List GrammarTree) := do
  word "default"
  let declared : Parser (List GrammarTree) := do return [← call .declaration]
  let value : Parser (List GrammarTree) := do
    let e ← call .expression
    semicolon ⟨true, false⟩
    return [e]
  declared <|> value

/-- The exports that only typed scripts have. -/
def exportTyped : Parser (List GrammarTree) := do
  ensure (← isTyped)
  let types : Parser (List GrammarTree) := do
    word "type"
    let clause ← exportClause
    let source ← optionalPart do
      if ← endsStatement then return none
      else if ← isWord "from" then some <$> fromClause
      else return none
    semicolon ⟨false, false⟩
    return clause :: source
  let assignedName : Parser (List GrammarTree) := do return [← importAlias]
  let assigned : Parser (List GrammarTree) := do
    mark "="
    let e ← call .expression
    semicolon ⟨true, false⟩
    return [e]
  let global : Parser (List GrammarTree) := do
    word "as"
    word "namespace"
    let name ← identifier
    semicolon ⟨false, false⟩
    return [name]
  types <|> assignedName <|> assigned <|> global

def exportStatement : Parser GrammarTree := do
  let start ← nextOffset
  let decorators ← decorators
  word "export"
  let declared : Parser (List GrammarTree) := do return [← call .declaration]
  let body ← exportNames <|> exportDefault <|> exportTyped <|> declared
  node "export_statement" start (decorators ++ body)

end ScriptScout.Grammar.Parser
