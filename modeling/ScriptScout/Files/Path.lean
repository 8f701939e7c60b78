import ScriptScout.Text.Basic

/-!
# File paths

A path is kept as its text. What it denotes is read off its
components: empty parts count for nothing, and neither does `.` except
at the very front.
-/

namespace ScriptScout.Path

inductive Component where
  | root
  | here
  | up
  | name (text : String)
  deriving Repr, DecidableEq, Inhabited

/-- The components of the parts between slashes, after the first. -/
def componentsOfParts : List (List Char) → List Component
  | [] => []
  | part :: parts =>
      if part.isEmpty || part == ['.'] then componentsOfParts parts
      else if part == ['.', '.'] then .up :: componentsOfParts parts
      else .name (String.ofList part) :: componentsOfParts parts

def components (path : String) : List Component :=
  match Text.splitOn '/' path.toList with
  | [] => []
  | first :: parts =>
      if first.isEmpty then
        (if parts.isEmpty then [] else [.root]) ++ componentsOfParts parts
      else if first == ['.'] then .here :: componentsOfParts parts
      else componentsOfParts (first :: parts)

/-- The last component, if it is a name. -/
def fileName? (path : String) : Option String :=
  match (components path).getLast? with
  | some (.name text) => some text
  | _ => none

/-- What follows the last dot of the file name. A dot at the front of
the name starts no extension. -/
def extension? (path : String) : Option String := do
  let name ← fileName? path
  let (stem, extension) ← Text.splitLast? '.' name.toList
  guard !stem.isEmpty
  return String.ofList extension

/-! ## Moving along paths -/

def Component.text : Component → String
  | root => ""
  | here => "."
  | up => ".."
  | name text => text

/-- The path with the given components. -/
def ofComponents : List Component → String
  | [.root] => "/"
  | parts => String.intercalate "/" (parts.map Component.text)

/-- The absolute path of a place, given by the names that lead to it. -/
def ofNames (names : List String) : String :=
  ofComponents (.root :: names.map .name)

/-- The path of a file in a directory. -/
def join (directory name : String) : String :=
  if directory.isEmpty then name
  else if directory.toList.getLast? == some '/' then directory ++ name
  else directory ++ "/" ++ name

/-- The components of a path and of the paths above it, as far as its
text goes: an absolute path ends at the root, any other at the empty
path. -/
def ancestorsOf : List Component → List (List Component)
  | [] => [[]]
  | [.root] => [[.root]]
  | c :: cs => (ancestorsOf cs).map (c :: ·) ++ (if c == .root then [] else [[]])

/-- The path itself and the paths above it, nearest first. -/
def ancestors (path : String) : List String :=
  (ancestorsOf (components path)).map ofComponents

/-- The path without its last component. The root and the empty path
have none. -/
def parent? (path : String) : Option String :=
  (ancestors path)[1]?

/-! ## Order -/

/-- The root comes first, then `.`, then `..`, and names last. -/
def Component.rank : Component → Nat
  | root => 0
  | here => 1
  | up => 2
  | name _ => 3

def Component.le (a b : Component) : Bool :=
  match a, b with
  | name s, name t => s ≤ t
  | a, b => a.rank ≤ b.rank

/-- Component by component; what ends first comes first. -/
def componentsLe : List Component → List Component → Bool
  | [], _ => true
  | _ :: _, [] => false
  | a :: as, b :: bs => if a == b then componentsLe as bs else a.le b

/-- The order in which paths are listed. -/
def le (a b : String) : Bool :=
  componentsLe (components a) (components b)

end ScriptScout.Path
