import ScriptScout.Command.Run

/-!
# The program

Commands work on a `Disk`, which is a value. Before a command runs, the
part of the file system that it can look at is copied into one: the
trees that its words name, and the rule and settings files of every
directory above them. Afterwards the settings file is written if the
command made one.
-/

namespace ScriptScout.Program

/-! ## What is copied -/

/-- Is the file read, even if no word names it? Of other files only the
name counts. -/
def isRead (name : String) : Bool :=
  [Settings.fileName, ".ignore", ".gitignore", "exclude"].contains name
    || Files.hasExtension Dialect.supportedExtensions name

/-- What decides, from a directory, about the files below it. -/
def ruleFiles : List (List String) :=
  [[], [Settings.fileName], [".ignore"], [".gitignore"], [".jj"], [".git"],
   [".git", "info"], [".git", "info", "exclude"]]

/-- The places that parts of a path pass through, the last of them being
where they lead. -/
def places (place : List String) : List String → List (List String)
  | [] => [place]
  | part :: parts =>
      let next :=
        if part == "" || part == "." then place
        else if part == ".." then place.dropLast
        else place ++ [part]
      place :: places next parts

/-- The place and all places above it, from the root on. -/
def above (place : List String) : List (List String) :=
  (List.range (place.length + 1)).map place.take

def pathText (place : List String) : String :=
  "/" ++ "/".intercalate place

/-- Puts in an entry. A directory that is there stays as it is. -/
def fill (root : Entry) (place : List String) (e : Entry) : Entry :=
  match root.get? place, e with
  | some (.directory _), .directory _ => root
  | _, _ => root.put e place

/-! ## Copying -/

/-- A file, or an empty directory in the place of a directory. -/
def shallow? (path : String) : IO (Option Entry) := do
  try
    let place ← IO.FS.realPath path
    if ← place.isDir then return some (.directory [])
    return some (.file (← IO.FS.readBinFile place))
  catch _ => return none

/-- A directory with all that is in it. Links are left out, so that the
copy ends. -/
partial def copyTree (path : String) : IO Entry := do
  let members ← try (← IO.FS.realPath path).readDir catch _ => pure #[]
  let copies ← members.toList.filterMapM fun m => do
    match (← m.path.symlinkMetadata).type with
    | .dir => return some (m.fileName, ← copyTree m.path.toString)
    | .file =>
        let contents ← if isRead m.fileName then IO.FS.readBinFile m.path else pure .empty
        return some (m.fileName, Entry.file contents)
    | _ => return none
  return .directory copies

/-- Copies the tree that a path leads to. -/
def addTree (disk : Disk) (path : String) : IO Disk := do
  let (place, parts) := disk.start path
  let place := (places place parts).getLast?.getD place
  match ← shallow? (pathText place) with
  | some (.directory _) =>
      return { disk with root := disk.root.put (← copyTree (pathText place)) place }
  | _ => return disk

/-- Copies the files on the way of a path, and those that decide about
what it leads to. -/
def addWay (disk : Disk) (path : String) : IO Disk := do
  let (place, parts) := disk.start path
  let mut root := disk.root
  for directory in (places place parts).flatMap above do
    for file in ruleFiles do
      match ← shallow? (pathText (directory ++ file)) with
      | some e => root := fill root (directory ++ file) e
      | none => pure ()
  return { disk with root }

/-- The paths that an invocation names, and the working directory. -/
def namedPaths (o : Command.Options) : List String :=
  "." :: (o.paths ++ o.config.toList)

/-- The part of the file system that a command can look at. Trees come
first: a file that is named is read whatever its name is. -/
def readDisk (i : Command.Invocation) : IO Disk := do
  let here ← IO.currentDir
  let disk : Disk :=
    { root := .directory [],
      workingDirectory := (here.toString.splitOn "/").filter (· != "") }
  let trees := if i.task == .analyze then Command.Analyze.targets i.options else []
  (namedPaths i.options).foldlM addWay (← trees.foldlM addTree disk)

/-- Writes a file whose text a command changed. -/
def writeChange (before after : Disk) (path : String) : IO Unit := do
  match before.read path, after.read path with
  | .ok old, .ok text => if old != text then IO.FS.writeFile path text
  | .error _, .ok text => IO.FS.writeFile path text
  | _, _ => pure ()

def print (p : Command.Printed) : IO Unit := do
  IO.print p.out
  IO.eprint p.err

end ScriptScout.Program

open ScriptScout in
def main (words : List String) : IO UInt32 := do
  match Command.Invocation.parse words with
  | .error usage =>
      Program.print usage.printed
      return if usage.isAnswer then 0 else 2
  | .ok invocation =>
      let disk ← Program.readDisk invocation
      let color ← (← IO.getStdout).isTty
      let (outcome, after) := Command.run disk color invocation
      Program.writeChange disk after (Command.Init.settingsPath invocation.options.paths.head?)
      match outcome with
      | .error failure =>
          IO.eprintln ("Error: " ++ failure.message)
          return 1
      | .ok printed =>
          Program.print printed
          return 0
