import ScriptScout.Files.Path

/-!
# Directories and files

A disk is a tree of directories with files as its leaves, seen from a
working directory. A path is followed through the tree part by part
(`Disk.locate`), so that `..` leads to the directory above the one that
was reached, and every part but the last has to be a directory.
-/

namespace ScriptScout

/-- A file with its bytes, or a directory with its members, each under
its own name. -/
inductive Entry where
  | file (contents : ByteArray)
  | directory (members : List (String × Entry))
  deriving Inhabited

namespace Entry

def isFile : Entry → Bool
  | file _ => true
  | directory _ => false

/-- The member of a directory under a name. -/
def member? (e : Entry) (name : String) : Option Entry :=
  match e with
  | directory members => members.lookup name
  | file _ => none

/-- What the names lead to, one after the other. -/
def get? (e : Entry) : List String → Option Entry
  | [] => some e
  | name :: names => (e.member? name).bind (·.get? names)

/-- The members with one of them put in, in the place of what had its
name. -/
def putMember (name : String) (e : Entry) : List (String × Entry) → List (String × Entry)
  | [] => [(name, e)]
  | (n, old) :: rest => if n == name then (name, e) :: rest else (n, old) :: putMember name e rest

/-- Puts an entry at the end of the names. Directories that are missing
on the way are made, and a file on the way gives way to one. -/
def put (e placed : Entry) : List String → Entry
  | [] => placed
  | name :: names =>
      let members := match e with
        | directory members => members
        | file _ => []
      let inner := (members.lookup name).getD (directory [])
      directory (putMember name (inner.put placed names) members)

end Entry

/-- Why a file cannot be read or written. -/
inductive FileError where
  | notFound
  | notADirectory
  | isADirectory
  | notText
  deriving Repr, DecidableEq, Inhabited

def FileError.message : FileError → String
  | notFound => "No such file or directory (os error 2)"
  | notADirectory => "Not a directory (os error 20)"
  | isADirectory => "Is a directory (os error 21)"
  | notText => "stream did not contain valid UTF-8"

/-- The tree below `/`, and the names that lead to the working
directory. -/
structure Disk where
  root : Entry
  workingDirectory : List String

namespace Disk

/-- Follows one part of a path. The part in front of it has to be a
directory, even where the part itself leads nowhere else. -/
def follow (disk : Disk) (place : List String) (part : String) :
    Except FileError (List String) :=
  match disk.root.get? place with
  | some (.directory members) =>
      if part == "" || part == "." then .ok place
      else if part == ".." then .ok place.dropLast
      else if (members.lookup part).isSome then .ok (place ++ [part])
      else .error .notFound
  | some (.file _) => .error .notADirectory
  | none => .error .notFound

/-- Where a path starts, and its parts. A path that starts with a slash
starts at the root. -/
def start (disk : Disk) (path : String) : List String × List String :=
  match (Text.splitOn '/' path.toList).map String.ofList with
  | "" :: parts => ([], parts)
  | parts => (disk.workingDirectory, parts)

/-- The names that lead from the root to what a path denotes. The empty
path denotes nothing. -/
def locate (disk : Disk) (path : String) : Except FileError (List String) :=
  if path.isEmpty then .error .notFound
  else
    let (place, parts) := disk.start path
    parts.foldlM disk.follow place

/-- What a path denotes. -/
def entry (disk : Disk) (path : String) : Except FileError Entry := do
  let place ← disk.locate path
  match disk.root.get? place with
  | some e => .ok e
  | none => .error .notFound

def exists? (disk : Disk) (path : String) : Bool :=
  match disk.entry path with
  | .ok _ => true
  | .error _ => false

def isFile (disk : Disk) (path : String) : Bool :=
  match disk.entry path with
  | .ok e => e.isFile
  | .error _ => false

def isDirectory (disk : Disk) (path : String) : Bool :=
  match disk.entry path with
  | .ok e => !e.isFile
  | .error _ => false

/-- The text of a file. -/
def read (disk : Disk) (path : String) : Except FileError String := do
  match ← disk.entry path with
  | .directory _ => .error .isADirectory
  | .file contents =>
      match String.fromUTF8? contents with
      | some text => .ok text
      | none => .error .notText

/-- The disk with an entry put in place. -/
def put (disk : Disk) (placed : Entry) (names : List String) : Disk :=
  { disk with root := disk.root.put placed names }

/-- The place of a file in a directory, which is there or can be made.
A directory is not overwritten. -/
def fileIn (disk : Disk) (place : List String) (name : String) :
    Except FileError (List String) :=
  match disk.root.get? place with
  | some (.directory members) =>
      if name == "" || name == "." || name == ".." then .error .isADirectory
      else
        match members.lookup name with
        | some (.directory _) => .error .isADirectory
        | _ => .ok (place ++ [name])
  | some (.file _) => .error .notADirectory
  | none => .error .notFound

/-- Where a file goes that is written to a path. Its directory has to be
there. -/
def target (disk : Disk) (path : String) : Except FileError (List String) :=
  if path.isEmpty then .error .notFound
  else do
    let (place, parts) := disk.start path
    let place ← parts.dropLast.foldlM disk.follow place
    disk.fileIn place (parts.getLast?.getD "")

/-- Writes a text to a file, which is made if it is missing, with the
disk afterwards. A file that cannot be opened changes nothing. -/
def write (disk : Disk) (path text : String) : Except FileError Unit × Disk :=
  match disk.target path with
  | .ok names => (.ok (), disk.put (.file text.toUTF8) names)
  | .error cause => (.error cause, disk)

end Disk

end ScriptScout
