import ScriptScout.Decimal.Reader
import ScriptScout.Toml.Table
import ScriptScout.Toml.Text

/-!
# Reading settings files

`Toml.parse` reads a whole file and gives what it says as data. A date
or a time becomes an object with its text, which no setting takes for
a value.
-/

namespace ScriptScout.Toml

/-- Values nest less deep than this, and paths of names are shorter. -/
def nestingBound : Nat := 80

/-- A path of names. -/
def readKey (cs : List Char) : Option (Key × List Char) := do
  let (names, rest) ← readNames (cs.length + 1) cs
  guard (names.length < nestingBound)
  return (⟨names.dropLast, ← names.getLast?⟩, rest)

/-! ## Numbers -/

/-- The rest of a run of digits, in which single underscores may stand
between digits. -/
def moreDigits (isDigit : Char → Bool) : List Char → List Char × List Char
  | '_' :: c :: cs =>
      if isDigit c then
        let (ds, rest) := moreDigits isDigit cs
        (c :: ds, rest)
      else ([], '_' :: c :: cs)
  | c :: cs =>
      if isDigit c then
        let (ds, rest) := moreDigits isDigit cs
        (c :: ds, rest)
      else ([], c :: cs)
  | [] => ([], [])

/-- One digit or more. -/
def readDigits (isDigit : Char → Bool) : List Char → Option (List Char × List Char)
  | c :: cs =>
      if isDigit c then
        let (ds, rest) := moreDigits isDigit cs
        some (c :: ds, rest)
      else none
  | [] => none

/-- A decimal number without superfluous zeros in front. -/
def readWhole : List Char → Option (List Char × List Char)
  | '0' :: rest => some (['0'], rest)
  | cs => readDigits Char.isDigit cs

/-- Is there a minus, and what follows the sign, if there is one. -/
def readSign : List Char → Bool × List Char
  | '-' :: rest => (true, rest)
  | '+' :: rest => (false, rest)
  | cs => (false, cs)

def ofFloat (x : Float) : Json := .number (.real x)

/-- The exponent of a float, as its text. -/
def readExponent : List Char → Option (List Char × List Char)
  | c :: cs =>
      if c == 'e' || c == 'E' then do
        let (negative, rest) := readSign cs
        let (ds, rest) ← readDigits Char.isDigit rest
        return (if negative then '-' :: ds else ds, rest)
      else none
  | [] => none

/-- The fraction and the exponent of a float, one of which may be
missing. -/
def readFraction (cs : List Char) : Option ((List Char × List Char) × List Char) :=
  match cs with
  | '.' :: rest => do
      let (fraction, rest) ← readDigits Char.isDigit rest
      match readExponent rest with
      | some (exponent, rest) => return ((fraction, exponent), rest)
      | none => return ((fraction, []), rest)
  | _ => do
      let (exponent, rest) ← readExponent cs
      return (([], exponent), rest)

/-- A float in digits. One that is too large has no value. -/
def readFloat (cs : List Char) : Option (Json × List Char) := do
  let (negative, rest) := readSign cs
  let (whole, rest) ← readWhole rest
  let ((fraction, exponent), rest) ← readFraction rest
  let size := Decimal.nearest (whole ++ fraction)
    (Decimal.exponentValue exponent - fraction.length)
  let x := if negative then -size else size
  if x == 1 / 0 then none else return (ofFloat x, rest)

/-- The numbers that are written as words. -/
def readSpecial (cs : List Char) : Option (Json × List Char) :=
  let (negative, rest) := readSign cs
  let word (bits : UInt64) : Json :=
    ofFloat (Float.ofBits (if negative then bits ||| 0x8000000000000000 else bits))
  match rest with
  | 'i' :: 'n' :: 'f' :: rest => some (word 0x7ff0000000000000, rest)
  | 'n' :: 'a' :: 'n' :: rest => some (word 0x7ff8000000000000, rest)
  | _ => none

def isBaseDigit (base : Nat) (c : Char) : Bool := (Text.hexValue? c).any (· < base)

/-- An integer of 64 bits in one of four bases. -/
def readInteger (cs : List Char) : Option (Json × List Char) :=
  let based (base : Nat) (cs : List Char) : Option (Json × List Char) := do
    let (ds, rest) ← readDigits (isBaseDigit base) cs
    return (.number (.int (← Text.numeral? base (Nat.pow 2 63) ds)), rest)
  match cs with
  | '0' :: 'x' :: rest => based 16 rest
  | '0' :: 'o' :: rest => based 8 rest
  | '0' :: 'b' :: rest => based 2 rest
  | _ => do
      let (negative, rest) := readSign cs
      let (ds, rest) ← readWhole rest
      let n : Int := Decimal.digitsValue ds
      let n := if negative then -n else n
      guard (isLong n)
      return (.number (.int n), rest)

/-! ## Dates and times -/

/-- A number of exactly `size` digits. -/
def readFixed (size : Nat) (cs : List Char) : Option (Nat × List Char) :=
  let ds := cs.take size
  if ds.length == size && ds.all Char.isDigit then
    some (Decimal.digitsValue ds, cs.drop size)
  else none

def afterMark? (mark : Char) : List Char → Option (List Char)
  | c :: cs => if c == mark then some cs else none
  | [] => none

def daysIn (year month : Nat) : Nat :=
  let leap := year % 4 == 0 && (year % 100 != 0 || year % 400 == 0)
  if month == 2 then if leap then 29 else 28
  else if [4, 6, 9, 11].contains month then 30 else 31

/-- What follows a date. -/
def afterDate? (cs : List Char) : Option (List Char) := do
  let (year, rest) ← readFixed 4 cs
  let (month, rest) ← readFixed 2 (← afterMark? '-' rest)
  let (day, rest) ← readFixed 2 (← afterMark? '-' rest)
  guard (1 ≤ month && month ≤ 12 && 1 ≤ day && day ≤ daysIn year month)
  return rest

/-- What follows a time of day. -/
def afterTime? (cs : List Char) : Option (List Char) := do
  let (hour, rest) ← readFixed 2 cs
  let (minute, rest) ← readFixed 2 (← afterMark? ':' rest)
  let (second, rest) ← readFixed 2 (← afterMark? ':' rest)
  guard (hour ≤ 23 && minute ≤ 59 && second ≤ 60)
  match rest with
  | '.' :: more =>
      let digits := more.takeWhile Char.isDigit
      if digits.isEmpty then none else return more.drop digits.length
  | _ => return rest

/-- What follows the offset of a time, if there is one. -/
def afterOffset? (cs : List Char) : Option (List Char) :=
  match cs with
  | 'Z' :: rest | 'z' :: rest => some rest
  | '+' :: rest | '-' :: rest => do
      let (hour, rest) ← readFixed 2 rest
      let (minute, rest) ← readFixed 2 (← afterMark? ':' rest)
      guard (hour ≤ 23 && minute ≤ 59)
      return rest
  | _ => some cs

/-- A date, a time or both. -/
def readMoment (cs : List Char) : Option (Json × List Char) := do
  let rest ←
    match afterDate? cs with
    | some rest =>
        match rest with
        | c :: more =>
            if c == 'T' || c == 't' then (afterTime? more).bind afterOffset?
            else if c == ' ' then
              match afterTime? more with
              | some rest => afterOffset? rest
              | none => some rest
            else some rest
        | [] => some []
    | none => afterTime? cs
  let text := String.ofList (cs.take (cs.length - rest.length))
  return (.object [("date", .string text)], rest)

/-! ## Values -/

/-- A value that holds no others. -/
def readScalar (cs : List Char) : Option (Json × List Char) :=
  match cs with
  | 't' :: 'r' :: 'u' :: 'e' :: rest => some (.bool true, rest)
  | 'f' :: 'a' :: 'l' :: 's' :: 'e' :: rest => some (.bool false, rest)
  | '"' :: _ | '\x27' :: _ => (readString cs).map fun p => (.string p.1, p.2)
  | _ =>
      (readMoment cs).or ((readFloat cs).or ((readSpecial cs).or (readInteger cs)))

/-- The items of a list up to its bracket. A comma may stand behind the
last. -/
def readItems (item : List Char → Option (Json × List Char)) :
    Nat → List Char → Option (List Json × List Char)
  | 0, _ => none
  | fuel + 1, cs =>
      match skipAll cs with
      | ']' :: rest => some ([], rest)
      | cs => do
          let (first, rest) ← item cs
          match skipAll rest with
          | ']' :: rest => return ([first], rest)
          | ',' :: rest =>
              let (more, rest) ← readItems item fuel rest
              return (first :: more, rest)
          | _ => none

/-- A path of names with a value. -/
def readPair (value : List Char → Option (Json × List Char)) (cs : List Char) :
    Option ((Key × Json) × List Char) := do
  let (key, rest) ← readKey cs
  let (data, rest) ← value (skipSpaces (← afterMark? '=' rest))
  return ((key, data), rest)

/-- The pairs of an inline table up to its brace, of which there is at
least one. -/
def readPairs (value : List Char → Option (Json × List Char)) :
    Nat → List Char → Option (List (Key × Json) × List Char)
  | 0, _ => none
  | fuel + 1, cs => do
      let (first, rest) ← readPair value cs
      match skipSpaces rest with
      | '\x7d' :: rest => return ([first], rest)
      | ',' :: rest =>
          let (more, rest) ← readPairs value fuel rest
          return (first :: more, rest)
      | _ => none

/-- A value that nests less than `depth` deep. -/
def readValue : Nat → List Char → Option (Json × List Char)
  | 0, _ => none
  | depth + 1, cs =>
      match cs with
      | '[' :: rest => do
          guard (0 < depth)
          let (items, rest) ← readItems (readValue depth) (cs.length + 1) rest
          return (.array items, rest)
      | '\x7b' :: rest => do
          guard (0 < depth)
          match skipSpaces rest with
          | '\x7d' :: rest => return (.object [], rest)
          | _ =>
              let (pairs, rest) ← readPairs (readValue depth) (cs.length + 1) rest
              return (← inlineTable? pairs, rest)
      | _ => readScalar cs

/-! ## Files -/

/-- One statement, up to the end of its line. -/
def readStatement (cs : List Char) : Option (Statement × List Char) :=
  match cs with
  | '[' :: '[' :: rest => do
      let (key, rest) ← readKey rest
      return (.add key, ← (afterMark? ']' rest).bind (afterMark? ']'))
  | '[' :: rest => do
      let (key, rest) ← readKey rest
      return (.open key, ← afterMark? ']' rest)
  | _ => do
      let ((key, data), rest) ← readPair (readValue nestingBound) cs
      return (.pair key data, rest)

/-- Applies the statements of a text to a document. -/
def readStatements : Nat → Document → List Char → Option Document
  | 0, _, _ => none
  | fuel + 1, d, cs =>
      match skipSpaces cs with
      | [] => some d
      | c :: rest =>
          match if c == '#' then afterLine? (c :: rest) else afterBreak? (c :: rest) with
          | some rest => readStatements fuel d rest
          | none => do
              guard (c != '#')
              let (statement, rest) ← readStatement (c :: rest)
              readStatements fuel (← d.apply statement) (← afterLine? rest)

/-- What a file says. A mark of the byte order at its start does not
count. -/
def parse (text : String) : Option Json :=
  let cs := text.toList
  let cs := (Text.afterLead? ['\ufeff'] cs).getD cs
  (readStatements (cs.length + 1) {} cs).map Document.toJson

end ScriptScout.Toml
