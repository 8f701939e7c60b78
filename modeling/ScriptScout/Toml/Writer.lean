import ScriptScout.Json.Value
import ScriptScout.Toml.Text

/-!
# Writing settings files

Data are written as sections of pairs. A string is quoted with double
quotes unless that would mean escaping quotes or backslashes which
single quotes need not; strings with line breaks are set on lines of
their own between three quotes. Lists of two or more values have one
value to a line. Integers beyond 64 bits have no form.
-/

namespace ScriptScout.Toml

/-! ## Strings -/

/-- The length of the longest run of apostrophes. -/
def longestQuotes (cs : List Char) : Nat :=
  (cs.foldl (fun (best, run) c =>
    if c == '\x27' then (max best (run + 1), run + 1) else (best, 0)) (0, 0)).1

/-- Can the text stand between single quotes, and is it better off
there? -/
def prefersLiteral (cs : List Char) : Bool :=
  cs.any (fun c => c == '"' || c == '\\')
    && cs.all (fun c => c == '\t' || c == '\n' || (0x20 ≤ c.toNat && c.toNat != 0x7F))
    && longestQuotes cs < 3
    && cs.getLast? != some '\x27'

def codeEscape (c : Char) : List Char :=
  ['\\', 'u', '0', '0', (Text.hexDigit (c.toNat / 16)).toUpper,
    (Text.hexDigit (c.toNat % 16)).toUpper]

/-- A character between double quotes. -/
def escapeChar (c : Char) : List Char :=
  if c == '\x08' then ['\\', 'b']
  else if c == '\t' then ['\\', 't']
  else if c == '\n' then ['\n']
  else if c == '\x0c' then ['\\', 'f']
  else if c == '\r' then ['\\', 'r']
  else if c == '"' then ['\\', '"']
  else if c == '\\' then ['\\', '\\']
  else if c.toNat < 0x20 || c.toNat == 0x7F then codeEscape c
  else [c]

def quote (s : String) : String :=
  let cs := s.toList
  let lines := cs.contains '\n'
  let (opening, closing, body) :=
    if prefersLiteral cs then
      if lines then ("'''\n", "'''", s)
      else if cs.contains '\x27' then ("'''", "'''", s)
      else ("'", "'", s)
    else
      let body := String.ofList (cs.flatMap escapeChar)
      if lines then ("\"\"\"\n", "\"\"\"", body) else ("\"", "\"", body)
  opening ++ body ++ closing

/-! ## Numbers -/

/-- Doubles are written without an exponent, and with a point even if
they are whole. -/
def numberLayout : Decimal.Layout where
  points _ := true
  wholeMark := ".0"
  nan := "nan"
  infinity := "inf"

def realText (x : Float) : String :=
  if x.isNaN && Decimal.isNegative x then "-nan" else numberLayout.write x

def numberText? : Json.Number → Option String
  | .int n => if isLong n then some (toString n) else none
  | .real x => some (realText x)

/-! ## Values and sections -/

/-- A value that holds no others. -/
def scalarText? : Json → Option String
  | .bool b => some (if b then "true" else "false")
  | .number n => numberText? n
  | .string s => some (quote s)
  | _ => none

def valueText? : Json → Option String
  | .array items => do
      let texts ← items.mapM scalarText?
      match texts with
      | [] | [_] => return "[" ++ String.intercalate ", " texts ++ "]"
      | _ => return "[\n" ++ String.join (texts.map fun t => "    " ++ t ++ ",\n") ++ "]"
  | j => scalarText? j

def pairText? (pair : String × Json) : Option String := do
  return pair.1 ++ " = " ++ (← valueText? pair.2) ++ "\n"

def sectionText? : String × Json → Option String
  | (name, .object pairs) => do
      return "[" ++ name ++ "]\n" ++ String.join (← pairs.mapM pairText?)
  | _ => none

/-- The text of an object of sections. -/
def write? : Json → Option String
  | .object sections => do return String.intercalate "\n" (← sections.mapM sectionText?)
  | _ => none

end ScriptScout.Toml
