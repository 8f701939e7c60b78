import ScriptScout.Finding
import ScriptScout.Text.Basic
import ScriptScout.Text.Word

/-!
# Keywords of queries and schemas

A query or a schema definition starts with one of a few keywords, in
any case. The readers here take the rest of a text and give back what
follows the part that they have read.
-/

namespace ScriptScout.Graphql

def operationKeywords : List String := ["query", "mutation", "subscription"]

def fragmentKeyword : String := "fragment"

def schemaKeywords : List String :=
  ["type", "input", "enum", "interface", "union", "scalar", "directive"]

def keywords : List String := operationKeywords ++ fragmentKeyword :: schemaKeywords

/-! ## Readers -/

def skipBlanks (cs : List Char) : List Char := cs.dropWhile Text.isBlank

/-- What follows a word, which may be written in any case. -/
def afterWord? (word : String) (cs : List Char) : Option (List Char) :=
  let size := word.toList.length
  if Text.fold (cs.take size) == word.toList then some (cs.drop size) else none

def afterAnyWord? (words : List String) (cs : List Char) : Option (List Char) :=
  words.findSome? (afterWord? · cs)

/-- What follows one blank or more. -/
def afterBlanks? : List Char → Option (List Char)
  | c :: cs => if Text.isBlank c then some (skipBlanks cs) else none
  | [] => none

/-- What follows a name of one word character or more. -/
def afterName? : List Char → Option (List Char)
  | c :: cs => if Text.isWord c then some (cs.dropWhile Text.isWord) else none
  | [] => none

/-- What follows a given character. -/
def afterChar? (expected : Char) : List Char → Option (List Char)
  | c :: cs => if c == expected then some cs else none
  | [] => none

/-! ## Leading keywords -/

/-- Does the text start with a keyword and a blank behind it? -/
def startsWithKeyword (s : String) : Bool :=
  ((afterAnyWord? keywords (skipBlanks s.toList)).bind afterBlanks?).isSome

/-- The kind of a text by its leading keyword. -/
def kindOf (s : String) : GraphqlKind :=
  let cs := (Text.trim s.toList).map Char.toLower
  let leads (word : String) := word.toList.isPrefixOf cs
  if leads "query" then .query
  else if leads "mutation" then .mutation
  else if leads "subscription" then .subscription
  else if (fragmentKeyword :: schemaKeywords).any leads then .schema
  else .other

end ScriptScout.Graphql
