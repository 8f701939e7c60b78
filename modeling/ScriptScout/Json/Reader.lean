import ScriptScout.Decimal.Reader
import ScriptScout.Json.Value
import ScriptScout.Text.Basic

/-!
# Reading JSON

`Json.parse` accepts one value with blanks around it. Arrays and
objects nest at most 127 deep, strings hold no raw control character
and no escaped half of a surrogate pair, and a number must fit a
double.

Each reader takes the rest of the text and gives back what follows the
part that it has read.
-/

namespace ScriptScout.Json

/-- May the character stand between tokens? -/
def isBlank (c : Char) : Bool := c == ' ' || c == '\n' || c == '\t' || c == '\r'

/-- Leaves out the blanks in front of a token. -/
def skipBlanks : List Char → List Char := List.dropWhile isBlank

/-- The rest after a fixed word. -/
def expect : List Char → List Char → Option (List Char)
  | [], rest => some rest
  | w :: word, c :: rest => if w == c then expect word rest else none
  | _ :: _, [] => none

/-! ## Strings -/

/-- Four hexadecimal digits. -/
def readHex4 : List Char → Option (Nat × List Char)
  | a :: b :: c :: d :: rest => do
      let a ← Text.hexValue? a
      let b ← Text.hexValue? b
      let c ← Text.hexValue? c
      let d ← Text.hexValue? d
      return (((a * 16 + b) * 16 + c) * 16 + d, rest)
  | _ => none

/-- The character of the digits after `\u`, which may be followed by
the other half of a surrogate pair. -/
def readUnicode (cs : List Char) : Option (Char × List Char) := do
  let (high, rest) ← readHex4 cs
  if 0xD800 ≤ high ∧ high < 0xDC00 then
    let rest ← expect ['\\', 'u'] rest
    let (low, rest) ← readHex4 rest
    guard (0xDC00 ≤ low ∧ low < 0xE000)
    return (Char.ofNat (0x10000 + (high - 0xD800) * 0x400 + (low - 0xDC00)), rest)
  else
    guard (¬ (0xDC00 ≤ high ∧ high < 0xE000))
    return (Char.ofNat high, rest)

/-- The character of an escape sequence, read after its backslash. -/
def readEscape : List Char → Option (Char × List Char)
  | '"' :: rest => some ('"', rest)
  | '\\' :: rest => some ('\\', rest)
  | '/' :: rest => some ('/', rest)
  | 'b' :: rest => some ('\x08', rest)
  | 'f' :: rest => some ('\x0c', rest)
  | 'n' :: rest => some ('\n', rest)
  | 'r' :: rest => some ('\r', rest)
  | 't' :: rest => some ('\t', rest)
  | 'u' :: rest => readUnicode rest
  | _ => none

/-- The characters of a string up to its closing quote. `fuel` bounds
the number of characters; the length of the text is always enough. -/
def readChars : Nat → List Char → Option (List Char × List Char)
  | 0, _ => none
  | _ + 1, [] => none
  | fuel + 1, c :: rest =>
      if c == '"' then some ([], rest)
      else if c == '\\' then do
        let (e, rest) ← readEscape rest
        let (cs, rest) ← readChars fuel rest
        return (e :: cs, rest)
      else if c.toNat < 0x20 then none
      else do
        let (cs, rest) ← readChars fuel rest
        return (c :: cs, rest)

/-- A string, read after its opening quote. -/
def readString (cs : List Char) : Option (String × List Char) := do
  let (text, rest) ← readChars (cs.length + 1) cs
  return (String.ofList text, rest)

/-! ## Numbers -/

/-- The leading digits. -/
def takeDigits (cs : List Char) : List Char × List Char :=
  (cs.takeWhile Char.isDigit, cs.dropWhile Char.isDigit)

/-- The digits of a significand, as many as fit in 64 bits, and how
many were left out. -/
def significand (ds : List Char) : Nat × Nat :=
  ds.foldl (fun (n, dropped) d =>
    let next := 10 * n + (d.toNat - '0'.toNat)
    if dropped = 0 ∧ next < Nat.pow 2 64 then (next, 0) else (n, dropped + 1)) (0, 0)

/-- Scales a significand by a power of ten in double arithmetic; fails
if the number is too large. -/
def scaleReal (fuel : Nat) (x : Float) (e : Int) : Option Float :=
  match fuel with
  | 0 => some x
  | fuel + 1 =>
      if e.natAbs ≤ 308 then
        let power := Float.ofScientific 1 false e.natAbs
        if e ≥ 0 then
          let y := x * power
          if y.isInf then none else some y
        else some (x / power)
      else if x == 0 then some x
      else if e ≥ 0 then none
      else scaleReal fuel (x / 1e308) (e + 308)

/-- The exponent part, if there is one. -/
def readExponent : List Char → Option (Int × List Char)
  | c :: rest =>
      if c == 'e' || c == 'E' then
        let (negative, rest) := match rest with
          | '-' :: more => (true, more)
          | '+' :: more => (false, more)
          | _ => (false, rest)
        let (ds, rest) := takeDigits rest
        if ds.isEmpty then none
        else
          let n : Int := min (Decimal.digitsValue ds) 100000
          some (if negative then -n else n, rest)
      else some (0, c :: rest)
  | [] => some (0, [])

/-- The fraction digits after the point, if there is one. -/
def readFraction : List Char → Option (List Char × List Char)
  | '.' :: rest =>
      let (ds, rest) := takeDigits rest
      if ds.isEmpty then none else some (ds, rest)
  | rest => some ([], rest)

/-- A number, read after its sign. Integers of at most 64 bits are
kept exact; negative zero is a double. -/
def readUnsigned (negative : Bool) (cs : List Char) : Option (Number × List Char) := do
  let (whole, rest) := takeDigits cs
  guard (!whole.isEmpty)
  guard (whole.head? != some '0' || whole.length == 1)
  let (fraction, afterFraction) ← readFraction rest
  let (exponent, final) ← readExponent afterFraction
  let n := Decimal.digitsValue whole
  let isInt := fraction.isEmpty && final.length == rest.length
  if isInt && !negative && n < Nat.pow 2 64 then return (.int n, final)
  if isInt && negative && 0 < n && n ≤ Nat.pow 2 63 then return (.int (-(n : Int)), final)
  let (digits, dropped) := significand (whole ++ fraction)
  let keptFraction := fraction.length - dropped
  let droppedWhole := dropped - fraction.length
  let e := exponent + droppedWhole - keptFraction
  let x ← scaleReal (e.natAbs / 308 + 2) (Float.ofNat digits) e
  return (.real (if negative then -x else x), final)

/-! ## Values -/

/-- Items up to the closing bracket, set apart by commas; read after
the first item's place. -/
def readItems {α : Type} (item : List Char → Option (α × List Char)) (close : Char) :
    Nat → List Char → Option (List α × List Char)
  | 0, _ => none
  | fuel + 1, cs => do
      let (first, rest) ← item cs
      match skipBlanks rest with
      | c :: rest =>
          if c == close then return ([first], rest)
          else if c == ',' then
            let (more, rest) ← readItems item close fuel (skipBlanks rest)
            return (first :: more, rest)
          else none
      | [] => none

/-- Nothing, or items, up to the closing bracket. -/
def readContainer {α : Type} (item : List Char → Option (α × List Char)) (close : Char)
    (cs : List Char) : Option (List α × List Char) :=
  match skipBlanks cs with
  | [] => none
  | c :: rest =>
      if c == close then some ([], rest)
      else readItems item close (rest.length + 1) (c :: rest)

/-- A name, a colon and a value. -/
def readMember (value : List Char → Option (Json × List Char)) :
    List Char → Option ((String × Json) × List Char)
  | '"' :: rest => do
      let (name, rest) ← readString rest
      match skipBlanks rest with
      | ':' :: rest =>
          let (v, rest) ← value (skipBlanks rest)
          return ((name, v), rest)
      | _ => none
  | _ => none

/-- A value with at most `depth` containers around its innermost
parts. -/
def readValue (depth : Nat) (cs : List Char) : Option (Json × List Char) :=
  match cs with
  | '"' :: rest => (readString rest).map fun (s, rest) => (.string s, rest)
  | '[' :: rest =>
      match depth with
      | 0 => none
      | depth + 1 => do
          let (items, rest) ← readContainer (readValue depth) ']' rest
          return (.array items, rest)
  | '\x7b' :: rest =>
      match depth with
      | 0 => none
      | depth + 1 => do
          let (members, rest) ← readContainer (readMember (readValue depth)) '\x7d' rest
          return (Json.ofMembers members, rest)
  | '-' :: rest => (readUnsigned true rest).map fun (n, rest) => (.number n, rest)
  | 't' :: rest => (expect ['r', 'u', 'e'] rest).map fun rest => (.bool true, rest)
  | 'f' :: rest => (expect ['a', 'l', 's', 'e'] rest).map fun rest => (.bool false, rest)
  | 'n' :: rest => (expect ['u', 'l', 'l'] rest).map fun rest => (.null, rest)
  | _ => (readUnsigned false cs).map fun (n, rest) => (.number n, rest)

/-- How deep arrays and objects may nest. -/
def maxNesting : Nat := 127

/-- The value that a text holds, if it holds exactly one. -/
def parse (text : String) : Option Json := do
  let (value, rest) ← readValue maxNesting (skipBlanks text.toList)
  guard (skipBlanks rest).isEmpty
  return value

end ScriptScout.Json
