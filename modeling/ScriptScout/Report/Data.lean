import ScriptScout.Finding
import ScriptScout.Json.Writer

/-!
# Findings as JSON text

The findings of one file are an object of five lists; those of several
files are a list of such objects, each with the name of its file first
and, if it could not be read, the reason last.
-/

namespace ScriptScout.Report

/-- What became of one file of several. -/
structure FileReport where
  file : String
  findings : Findings
  error : Option String := none
  deriving Inhabited

def FileReport.toJson (r : FileReport) : Json :=
  let members :=
    match r.findings.toJson with
    | .object members => members
    | _ => []
  .object (("file", .string r.file) :: members
    ++ (r.error.map fun e => ("error", Json.string e)).toList)

namespace Data

def text (pretty : Bool) (j : Json) : String :=
  if pretty then j.pretty else j.compact

/-- The findings of one file. -/
def render (pretty : Bool) (f : Findings) : String := text pretty f.toJson

/-- The findings of several files. -/
def renderReports (pretty : Bool) (reports : List FileReport) : String :=
  text pretty (.array (reports.map FileReport.toJson))

end Data

/-- How results are shown. -/
inductive Format where
  | json
  | terminal
  deriving Repr, DecidableEq, Inhabited

/-- The format of a name as settings give it. -/
def Format.ofName? (name : String) : Option Format :=
  match String.ofList (name.toList.map Char.toLower) with
  | "json" => some .json
  | "terminal" | "text" => some .terminal
  | _ => none

def Format.name : Format → String
  | json => "json"
  | terminal => "terminal"

end ScriptScout.Report
