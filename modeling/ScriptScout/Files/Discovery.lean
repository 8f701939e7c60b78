import ScriptScout.Files.Ignore

/-!
# Finding files

The files below a directory that have one of some extensions, less
those that are hidden, ignored or excluded. An ignored directory is not
entered, so nothing below it can be kept.

The place at which a search starts is never passed over itself; if it
is a file, that is all there is to find.

What is ignored is said by files of the directory and of those above
it (`Ignore.Scope`). The rules of a user, which hold in every
repository, are taken to be empty.
-/

namespace ScriptScout.Files

open Ignore (Rule Scope Verdict)

/-- Why a search was not made. -/
inductive DiscoveryError where
  | unreachable (cause : FileError)
  | invalidPattern (pattern : String)
  deriving Repr, DecidableEq, Inhabited

/-- Is a member of a directory looked at? Exclusions come first, and
only where no rule has an opinion are hidden names passed over. `trail`
leads from the start of the search to the directory. -/
def admits (exclusions : List Rule) (scopes : List Scope) (trail : List String)
    (name : String) (directory : Bool) : Bool :=
  let path := String.intercalate "/" (trail ++ [name])
  match Ignore.judge exclusions path directory <|> Ignore.verdict? scopes name directory with
  | some .skip => false
  | some .keep => true
  | none => name.toList.head? != some '.'

mutual

/-- The names that lead to the files of an entry that are looked at. -/
def walk (exclusions : List Rule) (scopes : List Scope) (trail : List String) :
    Entry → List (List String)
  | .file _ => [trail]
  | .directory members =>
      walkMembers exclusions (Scope.ofDirectory (.directory members) :: scopes) trail members

def walkMembers (exclusions : List Rule) (scopes : List Scope) (trail : List String) :
    List (String × Entry) → List (List String)
  | [] => []
  | (name, e) :: members =>
      (if admits exclusions scopes trail name (!e.isFile) then
        walk exclusions (scopes.map (·.descend name)) (trail ++ [name]) e
      else [])
        ++ walkMembers exclusions scopes trail members

end

/-- The scopes of the directories above a place, nearest first. -/
def scopesAbove (e : Entry) (scopes : List Scope) : List String → List Scope
  | [] => scopes
  | name :: names =>
      match e.member? name with
      | some inner =>
          scopesAbove inner ((Scope.ofDirectory e :: scopes).map (·.descend name)) names
      | none => scopes

/-- Has a path one of the extensions? These are given in lower case and
with their dots; letters of the path count in either case. -/
def hasExtension (extensions : List String) (path : String) : Bool :=
  match Path.extension? path with
  | some extension => extensions.contains ("." ++ extension.map Char.toLower)
  | none => false

/-- The rules of all patterns, or the first pattern that is none. -/
def exclusionRules (patterns : List String) : Except DiscoveryError (List Rule) :=
  patterns.mapM fun p =>
    match Rule.exclusion? p with
    | some rule => .ok rule
    | none => .error (.invalidPattern p)

/-- The absolute paths of the files below `start` that have one of the
extensions, in order. -/
def discover (disk : Disk) (start : String) (extensions patterns : List String) :
    Except DiscoveryError (List String) := do
  let place ← (disk.locate start).mapError .unreachable
  let exclusions ← exclusionRules patterns
  let found := match disk.root.get? place with
    | some e => walk exclusions (scopesAbove disk.root [] place) [] e
    | none => []
  let paths := (found.map fun trail => Path.ofNames (place ++ trail)).filter
    (hasExtension extensions)
  return paths.mergeSort Path.le

end ScriptScout.Files
