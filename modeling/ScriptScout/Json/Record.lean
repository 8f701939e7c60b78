import ScriptScout.Json.Value

/-!
# Records as JSON

A record is written as an object with its fields in order, and read
from an object in which unknown names are passed over, or from a list
of the values of its fields in order. A `Codec` is a pair of a writer
and a reader; the codec of a record is put together from one `Field`
for each of its fields, so that what is written and what is read are
told in one place.
-/

namespace ScriptScout.Json

/-- How values of a type are written and read. -/
structure Codec (α : Type) where
  write : α → Json
  read : Json → Option α

namespace Codec

def bool : Codec Bool := ⟨.bool, Json.bool?⟩

def string : Codec String := ⟨.string, Json.string?⟩

def nat : Codec Nat := ⟨fun n => .number (.int n), Json.nat?⟩

def real : Codec Float := ⟨fun x => .number (.real x), Json.real?⟩

def list {α : Type} (c : Codec α) : Codec (List α) where
  write xs := .array (xs.map c.write)
  read
    | .array items => items.mapM c.read
    | _ => none

/-- A value of a finite type, by its name. An object with nothing but
that name is read as well. -/
def names {α : Type} (all : List α) (name : α → String) : Codec α where
  write a := .string (name a)
  read
    | .string s | .object [(s, .null)] => all.find? (name · == s)
    | _ => none

end Codec

/-- One field of a record. A field that is absent is not written, and
one that is not required may be missing. -/
structure Field (σ : Type) where
  key : String
  required : Bool
  get : σ → Option Json
  set : Json → σ → Option σ

namespace Field

/-- A field that may be missing and then keeps its default. -/
def ofDefault {σ α : Type} (key : String) (c : Codec α) (get : σ → α)
    (set : α → σ → σ) : Field σ where
  key
  required := false
  get s := some (c.write (get s))
  set j s := (c.read j).map (set · s)

/-- A field that has to be there. -/
def mandatory {σ α : Type} (key : String) (c : Codec α) (get : σ → α)
    (set : α → σ → σ) : Field σ :=
  { ofDefault key c get set with required := true }

/-- A field that may be absent; `null` stands for an absent value. -/
def optional {σ α : Type} (key : String) (c : Codec α) (get : σ → Option α)
    (set : Option α → σ → σ) : Field σ where
  key
  required := false
  get s := (get s).map c.write
  set
    | .null, s => some (set none s)
    | j, s => (c.read j).map fun a => set (some a) s

/-- Sets the field from a value that may be missing. -/
def fill {σ : Type} (f : Field σ) (value : Option Json) (s : σ) : Option σ :=
  match value with
  | some j => f.set j s
  | none => if f.required then none else some s

/-- Sets fields from the values of a list, in order. -/
def fillAll {σ : Type} : List (Field σ) → List Json → σ → Option σ
  | [], _, s => some s
  | f :: fs, values, s => do fillAll fs values.tail (← f.fill values.head? s)

end Field

/-- The codec of a record with the given fields. Reading starts from
`blank`; `surplus` says whether a list may hold more values than there
are fields. -/
def Codec.record {σ : Type} (surplus : Bool) (fields : List (Field σ)) (blank : σ) :
    Codec σ where
  write s := .object (fields.filterMap fun f => (f.get s).map (f.key, ·))
  read
    | .object members =>
        fields.foldlM (fun s f => f.fill (members.lookup f.key) s) blank
    | .array values =>
        if surplus || values.length ≤ fields.length then Field.fillAll fields values blank
        else none
    | _ => none

end ScriptScout.Json
