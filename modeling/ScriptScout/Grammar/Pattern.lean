import ScriptScout.Grammar.Parser

/-!
# Patterns

What stands on the left of an assignment or in a parameter list is
read as an expression first. Here it becomes a pattern, which fails if
some part of it cannot be assigned to.

An object such as `{a = 1}` is only a pattern. It is read as an object
with an `object_assignment_pattern` in it, and `isSettled` tells
whether all of those have found their pattern.
-/

namespace ScriptScout.Grammar

/-- The kinds that can be assigned to as they are. -/
def isTarget (kind : String) : Bool :=
  ["identifier", "undefined", "member_expression", "subscript_expression",
    "non_null_expression", "object_pattern", "array_pattern"].contains kind

mutual

/-- The pattern that an expression stands for. -/
def toPattern : GrammarTree → Option GrammarTree
  | .node label parts =>
      if isTarget label.kind then some (.node label parts)
      else if label.kind == "array" then
        (toElements parts).map (.node { label with kind := "array_pattern" })
      else if label.kind == "object" then
        (toElements parts).map (.node { label with kind := "object_pattern" })
      else none

/-- The parts of an object or array, as parts of its pattern. -/
def toElements : List GrammarTree → Option (List GrammarTree)
  | [] => some []
  | part :: rest => do
      return (← toElement part) :: (← toElements rest)

/-- A part of an object or array, or a parameter: a pattern, one with
a default value, or the rest. -/
def toElement : GrammarTree → Option GrammarTree
  | .node label parts =>
      if isTarget label.kind then some (.node label parts)
      else if label.kind == "object_assignment_pattern" then some (.node label parts)
      else if label.kind == "shorthand_property_identifier" then
        some (.node { label with kind := "shorthand_property_identifier_pattern" } parts)
      else if label.kind == "array" then
        (toElements parts).map (.node { label with kind := "array_pattern" })
      else if label.kind == "object" then
        (toElements parts).map (.node { label with kind := "object_pattern" })
      else
        match label.kind, parts with
        | "assignment_expression", [left, right] =>
            if isTarget left.kind then
              some (.node { label with kind := "assignment_pattern" } [left, right])
            else none
        | "spread_element", [inner] =>
            (toPattern inner).map fun p => .node { label with kind := "rest_pattern" } [p]
        | "pair", [key, value] =>
            (toElement value).map fun p =>
              .node { label with kind := "pair_pattern" } [key, p]
        | _, _ => none

end

mutual

/-- Is every default value of an object part of a pattern? -/
def isSettled : GrammarTree → Bool
  | .node label parts =>
      !(label.kind == "object" && parts.any (·.kind == "object_assignment_pattern"))
        && areSettled parts

def areSettled : List GrammarTree → Bool
  | [] => true
  | part :: rest => isSettled part && areSettled rest

end

namespace Parser

/-- Gives the value, or fails. -/
def fromOption {α : Type} : Option α → Parser α
  | some a => pure a
  | none => failure

/-- What a declaration binds: a name or a pattern in brackets. -/
def binding : Parser GrammarTree := do
  match ← ahead with
  | '\x7b' :: _ => fromOption (toPattern (← call .objectLiteral))
  | '[' :: _ => fromOption (toPattern (← call .arrayLiteral))
  | _ => identifier

end Parser

end ScriptScout.Grammar
