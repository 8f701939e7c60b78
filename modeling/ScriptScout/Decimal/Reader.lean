/-!
# Reading decimal numbers

The double nearest to a decimal number of any length, and the text of a
number as people write it: digits with or without a point, an exponent,
a sign, or a word for what is not finite.
-/

namespace ScriptScout.Decimal

/-! ## Digits -/

/-- The number that decimal digits write. -/
def digitsValue (digits : List Char) : Nat :=
  digits.foldl (fun n d => 10 * n + (d.toNat - '0'.toNat)) 0

/-- The double nearest to the digits, as a whole number, times a power
of ten. Far beyond the doubles it is infinite, far below them zero. -/
def nearest (digits : List Char) (exponent : Int) : Float :=
  let digits := digits.dropWhile (· == '0')
  let n := digitsValue digits
  let magnitude := (digits.length : Int) + exponent
  if n = 0 || magnitude < -400 then 0
  else if magnitude > 400 then 1 / 0
  else Float.ofScientific n (exponent < 0) exponent.natAbs

/-- The exponent that stands behind the letter `e`; beyond a million
its size makes no difference. -/
def exponentValue (cs : List Char) : Int :=
  let (negative, digits) := match cs with
    | '-' :: ds => (true, ds)
    | '+' :: ds => (false, ds)
    | ds => (false, ds)
  let n : Int := min (digitsValue digits) 1000000
  if negative then -n else n

/-! ## Numbers as they are written -/

/-- The exponent behind a mantissa, which may be missing. -/
def exponent? : List Char → Option Int
  | [] => some 0
  | c :: cs =>
      let digits := match cs with
        | '+' :: ds | '-' :: ds => ds
        | ds => ds
      if c.toLower == 'e' && !digits.isEmpty && digits.all Char.isDigit then
        some (exponentValue cs)
      else none

/-- A number without a sign. There has to be a digit before or after
the point. -/
def unsigned? (cs : List Char) : Option Float := do
  let whole := cs.takeWhile Char.isDigit
  let rest := cs.dropWhile Char.isDigit
  let (places, rest) := match rest with
    | '.' :: rest => (rest.takeWhile Char.isDigit, rest.dropWhile Char.isDigit)
    | rest => ([], rest)
  guard !(whole ++ places).isEmpty
  let exponent ← exponent? rest
  return nearest (whole ++ places) (exponent - places.length)

/-- A number without a sign, or a word in either case. -/
def magnitude? (cs : List Char) : Option Float :=
  match String.ofList (cs.map Char.toLower) with
  | "inf" | "infinity" => some (1 / 0)
  | "nan" => some (0 / 0)
  | _ => unsigned? cs

/-- The double that a text writes. -/
def read? (text : String) : Option Float :=
  match text.toList with
  | '-' :: cs => (magnitude? cs).map (- ·)
  | '+' :: cs => magnitude? cs
  | cs => magnitude? cs

end ScriptScout.Decimal
