import ScriptScout.Decimal.Shortest

/-!
# Decimal text

How digits become text. The shortest form is laid out positionally or
with an exponent, as a `Layout` says; `fixed` writes a given number of
places instead.
-/

namespace ScriptScout.Decimal

/-- The decisions of a number format.

* `points` says whether a number whose point stands after the digit
  with index `n` (counted from the first digit; zero or less means
  leading zeros) is written without an exponent;
* `wholeMark` is what ends a number without fraction. -/
structure Layout where
  points : Int → Bool
  wholeMark : String
  nan : String
  infinity : String

def zeros (n : Nat) : String :=
  String.ofList (List.replicate n '0')

/-- Digits with the point after the first `point` of them. -/
def positional (digits : List Char) (point : Int) (wholeMark : String) : String :=
  match point with
  | .ofNat (n + 1) =>
      if digits.length ≤ n + 1 then
        String.ofList digits ++ zeros (n + 1 - digits.length) ++ wholeMark
      else
        String.ofList (digits.take (n + 1)) ++ "." ++ String.ofList (digits.drop (n + 1))
  | .ofNat 0 => "0." ++ String.ofList digits
  | .negSucc n => "0." ++ zeros (n + 1) ++ String.ofList digits

/-- One digit before the point, and a signed exponent. -/
def exponential (digits : List Char) (point : Int) : String :=
  let e := point - 1
  let tail := digits.drop 1
  let mantissa := String.ofList (digits.take 1)
    ++ (if tail.isEmpty then "" else "." ++ String.ofList tail)
  let sign := if e < 0 then "-" else "+"
  mantissa ++ "e" ++ sign ++ toString e.natAbs

/-- The text of a double in the given layout. -/
def Layout.write (l : Layout) (x : Float) : String :=
  if x.isNaN then l.nan
  else
    let sign := if isNegative x then "-" else ""
    if x.isInf then sign ++ l.infinity
    else
      let s := shortest x
      if s.digits = 0 then sign ++ "0" ++ l.wholeMark
      else
        let digits := Nat.toDigits 10 s.digits
        let point := (digits.length : Int) + s.exponent
        sign ++ (if l.points point then positional digits point l.wholeMark
          else exponential digits point)

/-- The quotient rounded to the nearest natural number; a tie goes to
the even neighbour. -/
def roundDiv (num den : Nat) : Nat :=
  let q := num / den
  let twice := 2 * (num % den)
  if twice < den || (twice = den && q % 2 = 0) then q else q + 1

/-- The text of a double with `places` digits after the point. -/
def fixed (places : Nat) (x : Float) : String :=
  if x.isNaN then "NaN"
  else
    let sign := if isNegative x then "-" else ""
    if x.isInf then sign ++ "inf"
    else
      let b := Binary.ofFloat x
      let f := Fraction.scale b.mantissa b.exponent
      let n := roundDiv (f.num * Nat.pow 10 places) f.den
      let digits := Nat.toDigits 10 n
      let digits := List.replicate (places + 1 - digits.length) '0' ++ digits
      let whole := digits.take (digits.length - places)
      let rest := digits.drop (digits.length - places)
      sign ++ String.ofList whole
        ++ (if places = 0 then "" else "." ++ String.ofList rest)

end ScriptScout.Decimal
