import ScriptScout.Graphql.Keyword
import ScriptScout.Settings

/-!
# Plausible queries and schemas

Many texts start with a word such as `type` or `query`. `isPlausible`
tells the ones that are queries, fragments or schema definitions by
their shape: a name, braces that match, something between them, and
not too many words of other languages.
-/

namespace ScriptScout.Graphql

open Text (trim)

/-! ## Braces -/

/-- Do the braces of a text match, given `depth` open ones before it? -/
def balancedFrom : Nat → List Char → Bool
  | depth, [] => depth == 0
  | depth, c :: cs =>
      if c == '\x7b' then balancedFrom (depth + 1) cs
      else if c == '\x7d' then
        match depth with
        | 0 => false
        | depth + 1 => balancedFrom depth cs
      else balancedFrom depth cs

/-- Does every brace have its partner? -/
def isBalanced (cs : List Char) : Bool := balancedFrom 0 cs

def hasBraces (cs : List Char) : Bool :=
  cs.contains '\x7b' && cs.contains '\x7d'

/-- What stands between the first opening brace and the last closing
one, without the blanks around it; empty if they do not enclose
anything. -/
def body (cs : List Char) : List Char :=
  let inner := (cs.dropWhile (· != '\x7b')).drop 1
  match Text.splitLast? '\x7d' inner with
  | some (text, _) => trim text
  | none => []

/-! ## Queries and fragments -/

/-- What follows arguments in parentheses, if there are any. -/
def afterArguments? (cs : List Char) : Option (List Char) :=
  match cs with
  | '(' :: rest => (Text.splitFirst? ')' rest).map (·.2)
  | _ => some cs

/-- A keyword, then either a brace or a name, arguments that may be
missing, and a brace. -/
def isOperationShape (cs : List Char) : Bool :=
  match afterAnyWord? operationKeywords (skipBlanks cs) with
  | none => false
  | some rest =>
      let rest := skipBlanks rest
      (afterChar? '\x7b' rest).isSome
        || (do
          let rest ← afterName? rest
          let rest ← afterArguments? (skipBlanks rest)
          afterChar? '\x7b' (skipBlanks rest)).isSome

/-- Is an operation with a selection worth the name? -/
def isPlausibleOperation (h : HeuristicSettings) (cs : List Char) : Bool :=
  let inner := body cs
  hasBraces cs && isOperationShape cs && isBalanced cs && !inner.isEmpty
    && (h.selectionMinLength ≤ inner.length || inner.contains '#')

/-- A fragment with its name, its type and a brace. -/
def isFragmentShape (cs : List Char) : Bool :=
  (do
    let rest ← afterWord? fragmentKeyword (skipBlanks cs)
    let rest ← afterName? (← afterBlanks? rest)
    let rest ← afterWord? "on" (← afterBlanks? rest)
    let rest ← afterName? (← afterBlanks? rest)
    afterChar? '\x7b' (skipBlanks rest)).isSome

/-! ## Schemas -/

/-- The maximal runs of word characters. -/
def wordRuns (cs : List Char) : List (List Char) :=
  match _h : cs.dropWhile (!Text.isWord ·) with
  | [] => []
  | c :: rest =>
      (c :: rest.takeWhile Text.isWord) :: wordRuns (rest.dropWhile Text.isWord)
termination_by cs.length
decreasing_by
  have h1 := (List.dropWhile_suffix (l := cs) (!Text.isWord ·)).length_le
  have h2 := (List.dropWhile_suffix (l := rest) Text.isWord).length_le
  rw [_h] at h1
  simp at h1
  omega

/-- How many words of a text are among the given ones. -/
def countWords (words : List String) (cs : List Char) : Nat :=
  (wordRuns cs).countP fun run => words.contains (String.ofList (Text.fold run))

/-- Words that a schema holds few of and other languages many. -/
def crowdedWords : List String :=
  schemaKeywords ++ ["class", "struct", "extends", "implements", "namespace", "var",
    "let", "const", "function", "if", "for", "while", "switch", "case", "break",
    "continue", "return", "public", "private", "protected", "static", "final",
    "abstract", "override", "virtual", "async", "await", "import", "export",
    "default", "from", "as", "new", "this", "super", "null", "undefined", "true",
    "false", "boolean", "string", "number", "object", "array", "void"]

/-- Words that an enumeration of a schema never holds. -/
def foreignWords : List String :=
  ["class", "struct", "extends", "implements", "public", "private", "protected",
    "static", "final", "abstract", "override", "virtual", "function", "var", "let",
    "const", "if", "for", "while", "switch", "case", "break", "continue", "return"]

/-- What follows a keyword and a name that starts with a letter. -/
def afterDefined? (word : String) (cs : List Char) : Option (List Char) := do
  let rest ← (afterWord? word (skipBlanks cs)).bind afterBlanks?
  match rest with
  | c :: _ => if (Text.foldChar c).isLower then afterName? rest else none
  | [] => none

/-- A keyword and a name, and behind them a body in braces or
nothing. -/
def isDefinitionShape (word : String) (cs : List Char) : Bool :=
  match (afterDefined? word cs).map skipBlanks with
  | some [] => true
  | some (c :: rest) => c == '\x7b' && rest.contains '\x7d'
  | none => false

def isUnionShape (cs : List Char) : Bool :=
  match (afterDefined? "union" cs).bind fun rest => afterChar? '=' (skipBlanks rest) with
  | some (c :: _) => Text.isWord c || Text.isBlank c || c == '|'
  | _ => false

def isScalarShape (cs : List Char) : Bool :=
  match (afterDefined? "scalar" cs).map skipBlanks with
  | some rest => rest.isEmpty
  | none => false

def isDirectiveShape (cs : List Char) : Bool :=
  (do
    let rest ← (afterWord? "directive" (skipBlanks cs)).bind afterBlanks?
    afterName? (← afterChar? '@' rest)).isSome

/-- Has the text the shape that its leading keyword asks for? -/
def hasSchemaShape (cs : List Char) : Bool :=
  let lower := cs.map Char.toLower
  let leads (word : String) := word.toList.isPrefixOf lower
  if leads "type" then isDefinitionShape "type" cs && hasBraces cs
  else if leads "input" then isDefinitionShape "input" cs && hasBraces cs
  else if leads "enum" then
    isDefinitionShape "enum" cs && hasBraces cs && countWords foreignWords cs == 0
  else if leads "interface" then isDefinitionShape "interface" cs && hasBraces cs
  else if leads "union" then isUnionShape cs
  else if leads "scalar" then isScalarShape cs
  else if leads "directive" then isDirectiveShape cs
  else false

/-- Does a capital letter start the name that is defined? -/
def isCapitalized (cs : List Char) : Bool :=
  match (afterAnyWord? schemaKeywords (skipBlanks cs)).bind afterBlanks? with
  | some (c :: _) => c.isUpper
  | _ => false

/-- Is a schema definition worth the name? Names of directives need no
capital letter. -/
def isPlausibleSchema (h : HeuristicSettings) (cs : List Char) : Bool :=
  countWords crowdedWords cs ≤ h.schemaKeywordLimit
    && hasSchemaShape cs
    && (!cs.contains '\x7b' || isBalanced cs)
    && ("directive".toList.isPrefixOf (cs.map Char.toLower) || isCapitalized cs)
    && h.schemaMinLength ≤ cs.length

/-! ## All together -/

/-- Is the text a query, a fragment or a schema definition? -/
def isPlausible (h : HeuristicSettings) (s : String) : Bool :=
  let cs := trim s.toList
  h.graphqlMinLength ≤ cs.length
    && (if (afterAnyWord? operationKeywords cs).isSome then isPlausibleOperation h cs
      else if (afterWord? fragmentKeyword cs).isSome then
        isFragmentShape cs && isBalanced cs
      else if (afterAnyWord? schemaKeywords cs).isSome then isPlausibleSchema h cs
      else false)

end ScriptScout.Graphql
