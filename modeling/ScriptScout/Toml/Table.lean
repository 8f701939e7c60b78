import ScriptScout.Json.Value

/-!
# Tables of a settings file

A settings file in TOML is a sequence of statements: headers, which
open a table or add one to a list of tables, and pairs, which put a
value under a path of names into the open table. A table can be opened
by one header only, and once a pair has made a table by a path of
names, no header may open it again; a `Document` keeps for each table
how it came about, which is what these rules turn on.
-/

namespace ScriptScout.Toml

/-- How a table came about. -/
inductive Origin where
  /-- A header opened it, or it is an element of a list of tables. -/
  | header
  /-- A header named something below it. -/
  | implied
  /-- The path of a pair goes through it. -/
  | dotted
  deriving Repr, DecidableEq, Inhabited

/-- What stands under a name. Of a list of tables the last one is
open. -/
inductive Item where
  | value (data : Json)
  | table (origin : Origin) (entries : List (String × Item))
  | tables (elements : List (List (String × Item)))
  deriving Inhabited

abbrev Entries := List (String × Item)

/-- Replaces what stands under a name. -/
def replaceEntry (name : String) (item : Item) (entries : Entries) : Entries :=
  entries.map fun e => if e.1 == name then (name, item) else e

/-- Changes the table at the end of a path, making the tables on the
way that are missing. A path of a pair (`dotted`) does not go through
a table that a header opened. -/
def alterAt (dotted : Bool) :
    List String → (Origin → Entries → Option Entries) → Origin → Entries → Option Entries
  | [], change, origin, entries => change origin entries
  | name :: path, change, _, entries =>
      match entries.lookup name with
      | none => do
          let origin : Origin := if dotted then .dotted else .implied
          let inner ← alterAt dotted path change origin []
          return entries ++ [(name, .table origin inner)]
      | some (.value _) => none
      | some (.table origin inner) =>
          if dotted && origin == .header then none
          else do
            let inner ← alterAt dotted path change origin inner
            return replaceEntry name (.table origin inner) entries
      | some (.tables elements) => do
          let inner ← alterAt dotted path change .header (← elements.getLast?)
          return replaceEntry name (.tables (elements.dropLast ++ [inner])) entries

/-- Puts a value under a path of names. Only a table that pairs have
made is reached by more than one name. -/
def putPair (path : List String) (name : String) (data : Json) (origin : Origin)
    (entries : Entries) : Option Entries :=
  alterAt true path (fun origin entries =>
    if (origin == .dotted) == path.isEmpty || (entries.lookup name).isSome then none
    else some (entries ++ [(name, .value data)])) origin entries

/-- Opens the table with a name. -/
def openTable (name : String) (_ : Origin) (entries : Entries) : Option Entries :=
  match entries.lookup name with
  | none => some (entries ++ [(name, .table .header [])])
  | some (.table .implied inner) => some (replaceEntry name (.table .header inner) entries)
  | some _ => none

/-- Adds a table to the list with a name. -/
def addTable (name : String) (_ : Origin) (entries : Entries) : Option Entries :=
  match entries.lookup name with
  | none => some (entries ++ [(name, .tables [[]])])
  | some (.tables elements) => some (replaceEntry name (.tables (elements ++ [[]])) entries)
  | some _ => none

/-! ## Statements -/

/-- A path of names, the last of which is set apart. -/
structure Key where
  path : List String
  name : String
  deriving Repr, DecidableEq, Inhabited

def Key.full (k : Key) : List String := k.path ++ [k.name]

inductive Statement where
  | open (key : Key)
  | add (key : Key)
  | pair (key : Key) (data : Json)
  deriving Inhabited

/-- The tables read so far, and the path to the open one. -/
structure Document where
  entries : Entries := []
  current : List String := []
  deriving Inhabited

def Document.apply (d : Document) : Statement → Option Document
  | .open key => do
      let entries ← alterAt false key.path (openTable key.name) .header d.entries
      return ⟨entries, key.full⟩
  | .add key => do
      let entries ← alterAt false key.path (addTable key.name) .header d.entries
      return ⟨entries, key.full⟩
  | .pair key data => do
      let entries ← alterAt false d.current (putPair key.path key.name data) .header d.entries
      return { d with entries }

/-! ## Data -/

mutual

def Item.toJson : Item → Json
  | .value data => data
  | .table _ entries => .object (entriesJson entries)
  | .tables elements => .array (elementsJson elements)

def entriesJson : List (String × Item) → List (String × Json)
  | [] => []
  | (name, item) :: rest => (name, item.toJson) :: entriesJson rest

def elementsJson : List (List (String × Item)) → List Json
  | [] => []
  | entries :: rest => .object (entriesJson entries) :: elementsJson rest

end

/-- The table of pairs that stand inside a value. Nothing can be added
to it later. -/
def inlineTable? (pairs : List (Key × Json)) : Option Json :=
  (pairs.foldlM (fun entries p => putPair p.1.path p.1.name p.2 .header entries) []).map
    fun entries => .object (entriesJson entries)

/-- All that a document says. -/
def Document.toJson (d : Document) : Json := .object (entriesJson d.entries)

end ScriptScout.Toml
