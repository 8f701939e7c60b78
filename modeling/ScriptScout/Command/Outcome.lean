import ScriptScout.Analysis.Run
import ScriptScout.Files.Discovery
import ScriptScout.Settings.File

/-!
# Outcomes of commands

What a command prints, and why it may fail.
-/

namespace ScriptScout.Command

/-- The text on each of the two output channels. -/
structure Printed where
  out : String := ""
  err : String := ""
  deriving Repr, Inhabited

def Printed.append (p q : Printed) : Printed where
  out := p.out ++ q.out
  err := p.err ++ q.err

def Printed.line (text : String) : Printed where
  out := text ++ "\n"

def Printed.warning (text : String) : Printed where
  err := text ++ "\n"

inductive Failure where
  | missing (path : String)
  | confidence (value : Float)
  /-- A file of settings, which was named on the command line if its
  path is given. -/
  | settings (path : Option String) (cause : Settings.LookupError)
  | discovery (cause : Files.DiscoveryError)
  | unreadable (path : String) (cause : FileError)

namespace Failure

/-- Numbers are written in full, whatever their size. -/
def numberLayout : Decimal.Layout where
  points _ := true
  wholeMark := ""
  nan := "NaN"
  infinity := "inf"

def lookupMessage : Settings.LookupError → String
  | .unreadable cause => cause.message
  | .malformed => "invalid settings"

def discoveryMessage : Files.DiscoveryError → String
  | .unreachable cause => cause.message
  | .invalidPattern pattern => "invalid pattern " ++ pattern

/-- The failure and its causes. -/
def message : Failure → String
  | missing path => "Path not found: " ++ path
  | confidence value =>
      "--confidence must be between 0.0 and 1.0, got " ++ numberLayout.write value
  | settings none cause => lookupMessage cause
  | settings (some path) cause => "Failed to load config " ++ path ++ ": " ++ lookupMessage cause
  | discovery cause => discoveryMessage cause
  | unreadable path cause =>
      "Failed to analyze " ++ path ++ ": " ++ Analysis.unreadable path cause
        ++ ": " ++ cause.message

end Failure

end ScriptScout.Command
