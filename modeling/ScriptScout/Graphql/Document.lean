import ScriptScout.Json.Value
import ScriptScout.Syntax.Node

/-!
# Compiled documents

A build step can replace the text of a query by its parsed form, a
value with kind `Document`. `rebuild?` writes such a value as text
again as far as it can be told: the headers of operations and
fragments, with a comment in place of each selection. The value comes
as JSON or as literals of a script (`literalJson?`).
-/

namespace ScriptScout.Graphql

/-- What stands for a selection. -/
def rebuiltBody : String :=
  " \x7b\n  # [Reconstructed from AST]\n\x7d"

/-- What stands for a document that cannot be rebuilt. -/
def genericDocument : String :=
  "query \x7b\n  # [Reconstructed from JavaScript AST object]\n\x7d"

/-! ## Types -/

/-- The name that a node carries. -/
def nameOf? (j : Json) : Option String :=
  (j.get? "name").bind fun n => (n.get? "value").bind Json.string?

def kindName? (j : Json) : Option String :=
  (j.get? "kind").bind Json.string?

def unknownType : String := "Unknown"

mutual

/-- The text of a type: a name, a list of a type, or a type that is
never null. -/
def typeText : Json → String
  | .object members =>
      match kindName? (.object members) with
      | some "NonNullType" => innerType members ++ "!"
      | some "ListType" => "[" ++ innerType members ++ "]"
      | some "NamedType" => (nameOf? (.object members)).getD unknownType
      | _ => unknownType
  | _ => unknownType

/-- The text of the type that another one wraps. -/
def innerType : List (String × Json) → String
  | [] => unknownType
  | (key, value) :: rest => if key == "type" then typeText value else innerType rest

end

/-! ## Definitions -/

/-- A variable of an operation with its type. -/
def variableText? (j : Json) : Option String := do
  let name ← (j.get? "variable").bind nameOf?
  let type ← j.get? "type"
  return "$" ++ name ++ ": " ++ typeText type

def operationText? (j : Json) : Option String := do
  let operation ← (j.get? "operation").bind Json.string?
  guard !(← j.get? "selectionSet").isNull
  let name := ((nameOf? j).filter (!·.isEmpty)).elim "" (" " ++ ·)
  let declared := ((j.get? "variableDefinitions").bind Json.array?).getD []
  let declarations := declared.filterMap variableText?
  let header :=
    if declarations.isEmpty then "" else "(" ++ String.intercalate ", " declarations ++ ")"
  return operation ++ name ++ header ++ rebuiltBody

def fragmentText? (j : Json) : Option String := do
  let name ← nameOf? j
  let type ← (j.get? "typeCondition").bind nameOf?
  return "fragment " ++ name ++ " on " ++ type ++ rebuiltBody

def definitionText? (j : Json) : Option String :=
  match kindName? j with
  | some "OperationDefinition" => operationText? j
  | some "FragmentDefinition" => fragmentText? j
  | _ => none

/-- The text of a document, if any of its definitions can be rebuilt. -/
def rebuild? (j : Json) : Option String := do
  guard (kindName? j == some "Document")
  let definitions ← (j.get? "definitions").bind Json.array?
  match definitions.filterMap definitionText? with
  | [] => none
  | texts => return String.intercalate "\n\n" texts

/-! ## Literals -/

/-- Is the node an object with the kind of a document and with
definitions? -/
def isDocumentObject : Node → Bool
  | .object _ properties =>
      (properties.any fun p =>
        p.propertyKey? == some "kind"
          && p.propertyValue?.bind Node.string? == some "Document")
        && properties.any fun p => p.propertyKey? == some "definitions"
  | _ => false

def literalValue? : Literal → Option Json
  | .string s => some (.string s)
  | .number x => if x.isFinite then some (.number (.real x)) else none
  | .boolean b => some (.bool b)
  | .null => some .null
  | .regex _ => none

mutual

/-- The value of an expression that consists of literals only. -/
def literalJson? : Node → Option Json
  | .literal _ value => literalValue? value
  | .array _ elements => (literalItems? elements).map .array
  | .object _ properties => (literalMembers? properties).map Json.ofMembers
  | _ => none

def literalItems? : List Node → Option (List Json)
  | [] => some []
  | element :: rest => do return (← literalJson? element) :: (← literalItems? rest)

def literalMembers? : List Node → Option (List (String × Json))
  | [] => some []
  | .property _ key value _ :: rest => do
      let name ← key.identifier?.or key.string?
      return (name, ← literalJson? value) :: (← literalMembers? rest)
  | _ :: _ => none

end

end ScriptScout.Graphql
