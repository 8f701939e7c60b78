import ScriptScout.Decimal.Layout

/-!
# JSON values

A JSON value keeps the members of an object as a list of pairs.
Objects that are read from text hold their members in the order of
their names, each name once (`Json.ofMembers`); objects that are built
to be written hold them in the order in which they are to be written.
-/

namespace ScriptScout

/-- A JSON number: an integer of at most 64 bits, or a double. -/
inductive Json.Number where
  | int (value : Int)
  | real (value : Float)
  deriving Repr, BEq, Inhabited

inductive Json where
  | null
  | bool (value : Bool)
  | number (value : Json.Number)
  | string (value : String)
  | array (items : List Json)
  | object (members : List (String × Json))
  deriving Repr, BEq, Inhabited

namespace Json

/-- Puts a member into a list that is ordered by name; a member of the
same name is replaced. -/
def insertMember (name : String) (value : Json) :
    List (String × Json) → List (String × Json)
  | [] => [(name, value)]
  | (k, v) :: rest =>
      if name == k then (name, value) :: rest
      else if name < k then (name, value) :: (k, v) :: rest
      else (k, v) :: insertMember name value rest

/-- The object with the given members: ordered by name, and of members
with one name the last. -/
def ofMembers (members : List (String × Json)) : Json :=
  object (members.foldl (fun acc m => insertMember m.1 m.2 acc) [])

/-- The member of an object under a name. -/
def get? (j : Json) (name : String) : Option Json :=
  match j with
  | object members => members.lookup name
  | _ => none

def string? : Json → Option String
  | string s => some s
  | _ => none

def array? : Json → Option (List Json)
  | array items => some items
  | _ => none

def bool? : Json → Option Bool
  | bool b => some b
  | _ => none

/-- The value as a natural number; a double never counts as one. -/
def nat? : Json → Option Nat
  | number (.int (.ofNat n)) => some n
  | _ => none

/-- The value as a double. -/
def real? : Json → Option Float
  | number (.int n) => some (Float.ofInt n)
  | number (.real x) => some x
  | _ => none

def isNull : Json → Bool
  | null => true
  | _ => false

end Json

end ScriptScout
