import ScriptScout.Finding
import ScriptScout.Text.Basic

/-!
# Findings on a terminal

A report of one file has a line with its name and, for each category
with findings, a heading and one line per finding.

Text is painted by codes before and after it. Painting a text that
holds painted parts keeps the outer colour behind each of them. Without
colours painting does nothing.
-/

namespace ScriptScout.Report

/-! ## Coloured text -/

/-- The ways in which text is set off. -/
inductive Paint where
  | bold
  | boldUnderlined
  | dimmed
  | red
  | green
  | yellow
  | cyan
  deriving Repr, DecidableEq, Inhabited

namespace Paint

def code : Paint → String
  | bold => "1"
  | boldUnderlined => "1;4"
  | dimmed => "2"
  | red => "31"
  | green => "32"
  | yellow => "33"
  | cyan => "36"

def opening (p : Paint) : String := "\x1b[" ++ p.code ++ "m"

/-- The code that ends all painting. -/
def reset : String := "\x1b[0m"

/-- Inserts `mark` behind each reset of a text. -/
def afterResets (mark : List Char) : List Char → List Char
  | '\x1b' :: '[' :: '0' :: 'm' :: cs => reset.toList ++ mark ++ afterResets mark cs
  | c :: cs => c :: afterResets mark cs
  | [] => []

/-- Paints a text, if colours are on. -/
def apply (p : Paint) (color : Bool) (text : String) : String :=
  if color then
    p.opening ++ String.ofList (afterResets p.opening.toList text.toList) ++ reset
  else text

end Paint

/-! ## Lines -/

namespace Terminal

/-- The most characters of a value that are shown. -/
def valueWidth : Nat := 120

/-- A value on one line: runs of blanks become single spaces, and what
is too long ends in an ellipsis. -/
def shorten (value : String) : String :=
  let line := List.intercalate [' '] (Text.words value.toList)
  if line.length ≤ valueWidth then String.ofList line
  else String.ofList (line.take (valueWidth - 1) ++ ['…'])

/-- The line of a finding. -/
def matchLine (color : Bool) (kind value : String) (line column : Nat) : String :=
  let label := Paint.cyan.apply color ("[" ++ kind ++ "]")
  let place := Paint.dimmed.apply color (toString line ++ ":" ++ toString column)
  "    " ++ label ++ " " ++ shorten value ++ " " ++ place

def findingLine {κ : Type} (color : Bool) (name : κ → String) (f : Finding κ) : String :=
  matchLine color (name f.kind) f.value f.position.line f.position.column

def urlLine (color : Bool) (f : UrlFinding) : String :=
  findingLine color UrlKind.name f.toFinding ++ " "
    ++ Paint.green.apply color (Decimal.fixed 2 f.details.confidence)

def httpLine (color : Bool) (f : HttpFinding) : String :=
  let method := f.method.elim "" fun m => " " ++ Paint.yellow.apply color m
  let url := f.url.elim "" (" " ++ ·)
  findingLine color HttpKind.name f.toFinding ++ method ++ url

/-- A heading with the lines under it; nothing if there are none. -/
def sectionLines (color : Bool) (icon title : String) (lines : List String) : List String :=
  if lines.isEmpty then []
  else
    ("  " ++ icon ++ " " ++ Paint.bold.apply color title ++ " (" ++ toString lines.length ++ ")")
      :: lines

/-- The lines of a report. -/
def lines (color : Bool) (file : String) (f : Findings) : List String :=
  let title := Paint.boldUnderlined.apply color file
  if f.isEmpty then [title, "  " ++ Paint.dimmed.apply color "nothing found"]
  else
    title
      :: (sectionLines color "🔗" "URLs" (f.urls.map (urlLine color))
        ++ sectionLines color "◈" "GraphQL"
          (f.graphql.map (findingLine color GraphqlKind.name))
        ++ sectionLines color "❌" "DOM XSS sinks"
          (f.domSinks.map fun m => Paint.red.apply color (findingLine color SinkKind.name m))
        ++ sectionLines color "⚡" "Events" (f.events.map (findingLine color EventKind.name))
        ++ sectionLines color "🌐" "HTTP calls" (f.httpCalls.map (httpLine color)))

/-- The report of one file. -/
def render (color : Bool) (file : String) (f : Findings) : String :=
  String.intercalate "\n" (lines color file f)

/-- The totals of a run over several files. -/
def summary (color : Bool) (files total failed : Nat) : String :=
  let unreadable :=
    if failed = 0 then ""
    else ", " ++ Paint.red.apply color (toString failed) ++ " unreadable"
  Paint.green.apply color "✅" ++ " " ++ Paint.bold.apply color (toString total)
    ++ " finding(s) in " ++ toString files ++ " file(s)" ++ unreadable

end Terminal

end ScriptScout.Report
