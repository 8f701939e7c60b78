import ScriptScout.Command.Arguments
import ScriptScout.Command.Outcome
import ScriptScout.Report.Terminal

/-!
# The analysis command

A single file is shown by itself; of directories and of several files
there is one report that lists the files.
-/

namespace ScriptScout.Command.Analyze

open Report (FileReport Format)

/-- The places that are analysed. -/
def targets (o : Options) : List String :=
  if o.paths.isEmpty then ["."] else o.paths

/-- The directory whose settings hold for a target. -/
def settingsDirectory (disk : Disk) (target : String) : String :=
  if disk.isFile target then (Path.parent? target).getD "." else target

/-- The settings that hold, before the options change them. -/
def baseSettings (disk : Disk) (o : Options) (target : String) :
    Except Failure Settings :=
  match o.config with
  | some path => (Settings.load disk path).mapError (.settings (some path))
  | none =>
      (Settings.find disk (settingsDirectory disk target)).mapError (.settings none)

def isProbability (x : Float) : Bool := 0 ≤ x && x ≤ 1

/-- Settings with what the options change. -/
def applyOptions (o : Options) (s : Settings) : Except Failure Settings := do
  let analysis := s.analysis
  let analysis ← match o.confidence with
    | some x =>
        if isProbability x then pure { analysis with confidenceThreshold := x }
        else throw (.confidence x)
    | none => pure analysis
  let analysis := match o.depth with
    | some n => { analysis with maxTraversalDepth := n }
    | none => analysis
  return { s with analysis }

/-- The options decide on the format before the settings do. -/
def format (o : Options) (s : Settings) : Format :=
  (o.format <|> Format.ofName? s.output.format).getD .json

/-- The files of one target: a directory is searched, and a file is
taken as it is given. -/
def filesOf (disk : Disk) (s : Settings) (target : String) :
    Except Files.DiscoveryError (List String) :=
  if disk.isDirectory target then
    Files.discover disk target Dialect.supportedExtensions s.ignore.paths
  else .ok [target]

/-- Leaves out paths that have the components of the one before. -/
def dropRepeated : List String → List String
  | [] => []
  | [p] => [p]
  | p :: q :: rest =>
      if Path.components p == Path.components q then dropRepeated (p :: rest)
      else p :: dropRepeated (q :: rest)
termination_by paths => paths.length

/-- The files of all targets, in order. -/
def collect (disk : Disk) (s : Settings) (targets : List String) :
    Except Files.DiscoveryError (List String) := do
  let files ← targets.mapM (filesOf disk s)
  return dropRepeated (files.flatten.mergeSort Path.le)

/-- What became of a file. -/
def report (disk : Disk) (s : Settings) (file : String) : FileReport :=
  match Analysis.analyzeFile disk s file with
  | .ok findings => { file, findings }
  | .error e => { file, findings := {}, error := some (Analysis.unreadable file e) }

/-- The findings of a single file. -/
def printSingle (color pretty : Bool) (format : Format) (file : String) (f : Findings) :
    Printed :=
  match format with
  | .json => .line (Report.Data.render pretty f)
  | .terminal => .line (Report.Terminal.render color file f)

/-- One report among others; a file that could not be read has a line
on the other channel. -/
def printReport (color : Bool) (r : FileReport) : Printed :=
  match r.error with
  | some e => .warning ("  " ++ r.file ++ ": " ++ e)
  | none => .line (Report.Terminal.render color r.file r.findings ++ "\n")

/-- The reports of several files. -/
def printReports (color pretty : Bool) (format : Format) (reports : List FileReport) :
    Printed :=
  match format with
  | .json => .line (Report.Data.renderReports pretty reports)
  | .terminal =>
      let failed := (reports.filter (·.error.isSome)).length
      let found := total (reports.map (·.findings.total))
      let summary := Report.Terminal.summary color reports.length found failed
      ((reports.map (printReport color)).foldl Printed.append {}).append (.line summary)

/-- The file that is the only target. -/
def single? (disk : Disk) : List String → Option String
  | [target] => if disk.isFile target then some target else none
  | _ => none

/-- Analyses the targets and prints what was found. -/
def run (disk : Disk) (color : Bool) (o : Options) : Except Failure Printed := do
  let targets := targets o
  match targets.find? (!disk.exists? ·) with
  | some path => throw (.missing path)
  | none => pure ()
  let s ← applyOptions o (← baseSettings disk o (targets.head?.getD "."))
  let format := format o s
  let pretty := s.output.pretty && !o.compact
  match single? disk targets with
  | some file =>
      let f ← (Analysis.analyzeFile disk s file).mapError (.unreadable file)
      return printSingle color pretty format file f
  | none =>
      let files ← (collect disk s targets).mapError .discovery
      return printReports color pretty format (files.map (report disk s))

end ScriptScout.Command.Analyze
