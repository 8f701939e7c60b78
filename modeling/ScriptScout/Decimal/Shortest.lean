/-!
# The shortest decimal form of a double

A finite double is a natural number times a power of two. Everything
that is written about a double (its shortest decimal form, its form
with a fixed number of places) is computed from that exact value, in
natural numbers.

Of all decimals that read back as a given double, the one with the
fewest digits is wanted, and of those the nearest. A decimal reads
back if it lies between the midpoints to the two neighbouring doubles;
the midpoints themselves count if the mantissa is even.

For each number of digits the two decimals of that many digits that
enclose the value are tried; the first number of digits with a hit
wins. Seventeen digits always suffice.
-/

namespace ScriptScout.Decimal

/-! ## Doubles as exact fractions -/

/-- A non-negative fraction; the denominator is positive. -/
structure Fraction where
  num : Nat
  den : Nat
  den_pos : 0 < den := by omega

/-- The number `mantissa * 2 ^ exponent`. -/
structure Binary where
  mantissa : Nat
  exponent : Int
  deriving Repr, DecidableEq

/-- Is the sign bit set? Holds of negative zero too. -/
def isNegative (x : Float) : Bool :=
  x.toBits >>> 63 == 1

/-- The magnitude of a finite double. -/
def Binary.ofFloat (x : Float) : Binary :=
  let bits := x.toBits.toNat
  let field : Nat := bits / Nat.pow 2 52 % Nat.pow 2 11
  let fraction : Nat := bits % Nat.pow 2 52
  if field = 0 then ⟨fraction, -1074⟩
  else ⟨fraction + Nat.pow 2 52, (field : Int) - 1075⟩

/-- The number `n * 2 ^ e` as a fraction. -/
def Fraction.scale (n : Nat) (e : Int) : Fraction :=
  match e with
  | .ofNat k => ⟨n * Nat.pow 2 k, 1, Nat.one_pos⟩
  | .negSucc k => ⟨n, Nat.pow 2 (k + 1), Nat.two_pow_pos _⟩

/-! ## The shortest form -/

/-- The decimal number `digits * 10 ^ exponent`. -/
structure Shortest where
  digits : Nat
  exponent : Int
  deriving Repr, DecidableEq

/-- The values that round to a double, with the value itself, all
over one denominator. -/
structure Interval where
  low : Nat
  value : Nat
  high : Nat
  den : Nat
  closed : Bool

/-- The reals that round to a non-zero double. The gap below a power
of two is half as wide as the gap above. -/
def Interval.ofBinary (b : Binary) : Interval :=
  let atPower := b.mantissa = Nat.pow 2 52 ∧ b.exponent > -1074
  let below := if atPower then 1 else 2
  let unit := Fraction.scale 1 (b.exponent - 2)
  { low := (4 * b.mantissa - below) * unit.num
    value := 4 * b.mantissa * unit.num
    high := (4 * b.mantissa + 2) * unit.num
    den := unit.den
    closed := b.mantissa % 2 = 0 }

/-- Does `d * 10 ^ e` round to the double? -/
def Interval.holds (i : Interval) (d : Nat) (e : Int) : Bool :=
  let scale (n : Nat) : Nat := match e with
    | .ofNat _ => n
    | .negSucc k => n * Nat.pow 10 (k + 1)
  let x := match e with
    | .ofNat k => d * Nat.pow 10 k * i.den
    | .negSucc _ => d * i.den
  if i.closed then scale i.low ≤ x && x ≤ scale i.high
  else scale i.low < x && x < scale i.high

/-- The number of decimal digits of `n`. -/
def digitCount (n : Nat) : Nat :=
  (Nat.toDigits 10 n).length

/-- The exponent `e` with `10 ^ (e - 1) ≤ num / den < 10 ^ e`, given
that the fraction is positive. -/
def magnitude (num den : Nat) : Int :=
  if den ≤ num then (digitCount (num / den) : Int)
  else
    -- num / den < 1: find the least k with num * 10 ^ k ≥ den
    let guess := digitCount den - digitCount num
    let k := if num * Nat.pow 10 guess ≥ den then guess else guess + 1
    let k := if k > 0 && num * Nat.pow 10 (k - 1) ≥ den then k - 1 else k
    1 - (k : Int)

/-- The value with `count` digits, if a decimal with that many digits
rounds to the double. -/
def Interval.tryDigits (i : Interval) (top : Int) (count : Nat) :
    Option Shortest :=
  let e := top - count
  let (num, den) := match e with
    | .ofNat k => (i.value, i.den * Nat.pow 10 k)
    | .negSucc k => (i.value * Nat.pow 10 (k + 1), i.den)
  let below := num / den
  let above := below + 1
  let twice := 2 * (num % den)
  let nearer := if twice < den || (twice = den && below % 2 = 0) then below else above
  let farther := if nearer = below then above else below
  if i.holds nearer e then some ⟨nearer, e⟩
  else if i.holds farther e then some ⟨farther, e⟩
  else none

/-- Removes trailing zeros from the digits. -/
def Shortest.strip (fuel : Nat) (s : Shortest) : Shortest :=
  match fuel with
  | 0 => s
  | fuel + 1 =>
      if s.digits ≠ 0 ∧ s.digits % 10 = 0 then
        strip fuel ⟨s.digits / 10, s.exponent + 1⟩
      else s

/-- The shortest decimal that reads back as the magnitude of a finite
double. -/
def shortest (x : Float) : Shortest :=
  let b := Binary.ofFloat x
  if b.mantissa = 0 then ⟨0, 0⟩
  else
    let i := Interval.ofBinary b
    let top := magnitude i.value i.den
    match (List.range 17).findSome? (fun k => i.tryDigits top (k + 1)) with
    | some s => s.strip 20
    | none => ⟨0, 0⟩

end ScriptScout.Decimal
