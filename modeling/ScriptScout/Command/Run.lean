import ScriptScout.Command.Analyze
import ScriptScout.Text.Quoted

/-!
# Running a command

There are two commands: the analysis, and one that puts a file with the
usual settings into a directory. A command may fail, and what it did to
the disk by then is part of its outcome. In the place of a command the
words can ask for a text, or be at fault.
-/

namespace ScriptScout.Command

/-! ## Writing settings -/

namespace Init

def hint : String :=
  "\nTune thresholds and modules, then run:\n  jshunter path/to/bundle.js"

/-- Where the settings of a directory are. -/
def settingsPath (directory : Option String) : String :=
  Path.join (directory.getD ".") Settings.fileName

/-- Writes the usual settings, unless there is a file of them. Gives
what is printed, and the disk afterwards. -/
def run (disk : Disk) (directory : Option String) : Except Failure Printed × Disk :=
  let path := settingsPath directory
  let place := " at " ++ Text.quoted path
  if disk.exists? path then
    (.ok (.line ("⚠️  " ++ Settings.fileName ++ " already exists" ++ place)), disk)
  else
    let (outcome, after) := Settings.save {} disk path
    let done := Printed.line ("✅ Created " ++ Settings.fileName ++ place ++ "\n" ++ hint)
    ((outcome.mapError (.settings none)).map fun _ => done, after)

end Init

/-! ## Commands -/

def programName : String := "jshunter"

def programVersion : String := "0.3.0"

def versionText : String := programName ++ " " ++ programVersion ++ "\n"

/-- What a command prints, and the disk afterwards. -/
def run (disk : Disk) (color : Bool) (i : Invocation) : Except Failure Printed × Disk :=
  match i.task with
  | .analyze => (Analyze.run disk color i.options, disk)
  | .init => Init.run disk i.options.paths.head?

/-! ## Help -/

def helpText : String :=
  "Find endpoints, GraphQL operations and DOM sinks in JavaScript\n\n" ++
  "Usage: jshunter [OPTIONS] [PATHS]...\n" ++
  "       jshunter <COMMAND>\n\n" ++
  "Commands:\n" ++
  "  init  Initialize .jshunter.toml configuration\n" ++
  "  help  Print this message or the help of the given subcommand(s)\n\n" ++
  "Arguments:\n" ++
  "  [PATHS]...  Files or directories to analyze (default: current directory)\n\n" ++
  "Options:\n" ++
  "  -c, --confidence <CONFIDENCE>  Minimum confidence for reported URLs (0.0 - 1.0)\n" ++
  "  -d, --depth <DEPTH>            Maximum traversal depth\n" ++
  "      --config <CONFIG>          Path to a .jshunter.toml (default: nearest one found upwards)\n" ++
  "      --format <FORMAT>          Output format [possible values: json, terminal]\n" ++
  "      --compact                  Single-line JSON output\n" ++
  "  -v, --verbose                  Show debug logging\n" ++
  "  -q, --quiet                    Suppress logging and progress output\n" ++
  "  -h, --help                     Print help\n" ++
  "  -V, --version                  Print version\n"

namespace Usage

/-- Was something asked for, or were the words at fault? -/
def isAnswer (u : Usage) : Bool := u == help || u == version

def message : Usage → String
  | unknownArgument => "error: unexpected argument found\n"
  | unknownCommand => "error: unrecognized subcommand\n"
  | invalidValue => "error: a value is missing or not among the possible values\n"
  | unreadableValue => "error: invalid value\n"
  | conflict => "error: an argument cannot be used here or more than once\n"
  | tooManyValues => "error: unexpected value found\n"
  | help => helpText
  | version => versionText

/-- Answers are printed as output, and faults on the other channel. -/
def printed (u : Usage) : Printed :=
  if u.isAnswer then { out := u.message } else { err := u.message }

end Usage

end ScriptScout.Command
