import ScriptScout.Files.Disk
import ScriptScout.Settings
import ScriptScout.Toml.Reader
import ScriptScout.Toml.Writer

/-!
# Settings as a file

The text of a settings file, and the settings that a text gives. On
disk, settings are read from a file that is named, or from the nearest
file of the usual name at or above a directory.
-/

namespace ScriptScout.Settings

/-- The name under which settings are looked for. -/
def fileName : String := ".jshunter.toml"

/-- The settings that a text gives. In a list of values those beyond
the last setting are passed over. -/
def ofToml? (text : String) : Option Settings :=
  (Toml.parse text).bind (codec true).read

/-- The text of settings, unless a number is too large for it. -/
def toToml? (s : Settings) : Option String :=
  Toml.write? s.toJson

/-! ## Files -/

/-- Why settings could not be read or written. -/
inductive LookupError where
  | unreadable (cause : FileError)
  | malformed
  deriving Repr, DecidableEq, Inhabited

/-- The settings of a file. -/
def load (disk : Disk) (path : String) : Except LookupError Settings := do
  let text ← (disk.read path).mapError .unreadable
  match ofToml? text with
  | some s => .ok s
  | none => .error .malformed

/-- The nearest settings file at or above a directory, as far as the
text of its path goes. -/
def locate? (disk : Disk) (directory : String) : Option String :=
  ((Path.ancestors directory).map (Path.join · fileName)).find? disk.exists?

/-- The settings that hold in a directory; without a file, the usual
ones. -/
def find (disk : Disk) (directory : String) : Except LookupError Settings :=
  match locate? disk directory with
  | some path => load disk path
  | none => .ok {}

/-- Writes settings to a file, with the disk afterwards. The text is
made before the file is opened, so settings that have none leave the
disk as it was. -/
def save (s : Settings) (disk : Disk) (path : String) : Except LookupError Unit × Disk :=
  match s.toToml? with
  | some text =>
      let (outcome, after) := disk.write path text
      (outcome.mapError .unreadable, after)
  | none => (.error .malformed, disk)

end ScriptScout.Settings
