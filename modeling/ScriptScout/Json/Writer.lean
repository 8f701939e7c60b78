import ScriptScout.Json.Value
import ScriptScout.Text.Basic

/-!
# Writing JSON

The compact form has no blanks; the pretty form puts each item on a
line of its own, indented by two spaces, and writes empty containers
as `[]` and `{}`. A double that is not finite is written as
`null`.
-/

namespace ScriptScout.Json

/-- Doubles are written with their shortest digits, always with a
point or an exponent; the exponent form starts at `1e+16` and below
`0.00001`. -/
def numberLayout : Decimal.Layout where
  points n := -5 < n && n ≤ 16
  wholeMark := ".0"
  nan := "null"
  infinity := "null"

def Number.text : Number → String
  | .int n => toString n
  | .real x => if x.isFinite then numberLayout.write x else "null"

/-- A character inside a string: quotes, backslashes and control
characters are escaped, everything else stands for itself. -/
def escapeChar (c : Char) : List Char :=
  if c == '"' then ['\\', '"']
  else if c == '\\' then ['\\', '\\']
  else if c == '\n' then ['\\', 'n']
  else if c == '\r' then ['\\', 'r']
  else if c == '\t' then ['\\', 't']
  else if c == '\x08' then ['\\', 'b']
  else if c == '\x0c' then ['\\', 'f']
  else if c.toNat < 0x20 then
    ['\\', 'u', '0', '0', Text.hexDigit (c.toNat / 16), Text.hexDigit (c.toNat % 16)]
  else [c]

def quote (s : String) : String :=
  "\"" ++ String.ofList (s.toList.flatMap escapeChar) ++ "\""

/-- How the items of a container are set. -/
inductive Style where
  | compact
  | pretty
  deriving Repr, DecidableEq, Inhabited

namespace Style

def indent (level : Nat) : String :=
  String.ofList (List.replicate (2 * level) ' ')

/-- What stands before an item of a container at nesting `level`. -/
def lead : Style → Nat → String
  | compact, _ => ""
  | pretty, level => "\n" ++ indent level

def colon : Style → String
  | compact => ":"
  | pretty => ": "

end Style

/-- Items between brackets, set apart by commas. -/
def enclose (style : Style) (level : Nat) (opening closing : String)
    (items : List String) : String :=
  match items with
  | [] => opening ++ closing
  | first :: rest =>
      opening ++ style.lead (level + 1) ++ first
        ++ String.join (rest.map fun item => "," ++ style.lead (level + 1) ++ item)
        ++ style.lead level ++ closing

mutual

/-- The text of a value that stands at nesting `level`. -/
def write (style : Style) (level : Nat) : Json → String
  | null => "null"
  | bool b => if b then "true" else "false"
  | number n => n.text
  | string s => quote s
  | array items => enclose style level "[" "]" (writeItems style (level + 1) items)
  | object members =>
      enclose style level "\x7b" "\x7d" (writeMembers style (level + 1) members)

def writeItems (style : Style) (level : Nat) : List Json → List String
  | [] => []
  | item :: rest => write style level item :: writeItems style level rest

def writeMembers (style : Style) (level : Nat) :
    List (String × Json) → List String
  | [] => []
  | (name, value) :: rest =>
      (quote name ++ style.colon ++ write style level value)
        :: writeMembers style level rest

end

def compact (j : Json) : String := j.write .compact 0

def pretty (j : Json) : String := j.write .pretty 0

end ScriptScout.Json
