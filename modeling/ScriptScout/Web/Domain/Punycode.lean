/-!
# Labels in basic characters

A label with characters beyond the first 128 is written in letters and
digits: the basic characters come first, and behind the last hyphen
stand the others, in order of their codes, as differences of position
and code. A difference is a number in base 36 whose digits, lowest
first, each have a threshold below which the digit is the last one; the
thresholds follow the sizes of the differences (`adapt`).

No loop needs fuel: encoding goes over the codes and shrinks the
difference, decoding consumes the digits.
-/

namespace ScriptScout.Web.Domain.Punycode

/-- Codes start behind the basic characters. -/
def initialCode : Nat := 0x80

def initialBias : Nat := 72

/-- The letters are the digits 0 to 25, the figures 26 to 35. -/
def digitChar (d : Nat) : Char :=
  Char.ofNat (if d < 26 then 'a'.toNat + d else '0'.toNat + (d - 26))

def digitValue? (c : Char) : Option Nat :=
  if 'a' ≤ c ∧ c ≤ 'z' then some (c.toNat - 'a'.toNat)
  else if 'A' ≤ c ∧ c ≤ 'Z' then some (c.toNat - 'A'.toNat)
  else if '0' ≤ c ∧ c ≤ '9' then some (c.toNat - '0'.toNat + 26)
  else none

/-- The threshold of the digit at position `k`. -/
def threshold (k bias : Nat) : Nat :=
  if k ≤ bias then 1 else if bias + 26 ≤ k then 26 else k - bias

theorem threshold_pos (k bias : Nat) : 1 ≤ threshold k bias := by
  unfold threshold; split
  · omega
  · split <;> omega

/-- Scales a difference down and counts how often. -/
def scaleDown (delta k : Nat) : Nat :=
  if 455 < delta then scaleDown (delta / 35) (k + 36)
  else k + 36 * delta / (delta + 38)
termination_by delta
decreasing_by exact Nat.div_lt_self (by omega) (by omega)

/-- The bias after a difference, of `count` characters written. -/
def adapt (delta count : Nat) (first : Bool) : Nat :=
  let delta := if first then delta / 700 else delta / 2
  scaleDown (delta + delta / count) 0

/-! ## Encoding -/

/-- The digits of a difference from position `k` on. -/
def encodeDigits (bias k n : Nat) : List Char :=
  let t := threshold k bias
  if n < t then [digitChar n]
  else
    digitChar (t + (n - t) % (36 - t)) ::
      encodeDigits bias (k + 36) ((n - t) / (36 - t))
termination_by n
decreasing_by
  have h := threshold_pos k bias
  exact Nat.lt_of_le_of_lt (Nat.div_le_self _ _) (by omega)

/-- Where encoding stands: the digits written, the difference run up so
far, the bias, and how many characters are placed. -/
structure Encoder where
  digits : List Char
  delta : Nat
  bias : Nat
  placed : Nat

/-- Passes one character of the label while the characters with the
given code are placed. -/
def Encoder.pass (basics code : Nat) (e : Encoder) (c : Char) : Encoder :=
  if c.toNat < code then { e with delta := e.delta + 1 }
  else if c.toNat == code then
    { digits := e.digits ++ encodeDigits e.bias 36 e.delta
      delta := 0
      bias := adapt e.delta (e.placed + 1) (e.placed == basics)
      placed := e.placed + 1 }
  else e

/-- Places the characters of each code in turn. -/
def encodeCodes (label : List Char) (basics : Nat) :
    Nat → List Nat → Encoder → Encoder
  | _, [], e => e
  | next, code :: codes, e =>
      let e := { e with delta := e.delta + (code - next) * (e.placed + 1) }
      let e := label.foldl (Encoder.pass basics code) e
      encodeCodes label basics (code + 1) codes { e with delta := e.delta + 1 }

/-- The label in letters, digits and hyphens. -/
def encode (label : List Char) : List Char :=
  let basic := label.filter (·.toNat < initialCode)
  let codes := ((label.map Char.toNat).filter (initialCode ≤ ·)).mergeSort.eraseDups
  let digits := (encodeCodes label basic.length initialCode codes
    ⟨[], 0, initialBias, basic.length⟩).digits
  basic ++ (if basic.isEmpty then [] else ['-']) ++ digits

/-! ## Decoding -/

/-- Numbers from here on are refused. -/
def numberBound : Nat := Nat.pow 2 32

/-- Reads a difference, added to `i`; each digit weighs `w`. -/
def decodeDigits (bias : Nat) : List Char → Nat → Nat → Nat → Option (Nat × List Char)
  | [], _, _, _ => none
  | c :: rest, k, w, i =>
      match digitValue? c with
      | none => none
      | some d =>
          let i := i + d * w
          let t := threshold k bias
          if numberBound ≤ i then none
          else if d < t then some (i, rest)
          else if numberBound ≤ w * (36 - t) then none
          else decodeDigits bias rest (k + 36) (w * (36 - t)) i

theorem decodeDigits_length {bias : Nat} {cs rest : List Char} {k w i n : Nat}
    (h : decodeDigits bias cs k w i = some (n, rest)) : rest.length < cs.length := by
  induction cs generalizing k w i with
  | nil => cases h
  | cons c cs ih =>
      rw [decodeDigits] at h
      split at h
      · cases h
      · dsimp only at h
        split at h
        · cases h
        · split at h
          · cases h; exact Nat.lt_succ_self _
          · split at h
            · cases h
            · exact Nat.lt_succ_of_lt (ih h)

/-- Inserts a character at a position. -/
def insertAt (label : List Char) (i : Nat) (c : Char) : List Char :=
  label.take i ++ c :: label.drop i

/-- Places the characters that the digits give. -/
def decodeFrom (label : List Char) (bias code i : Nat) (first : Bool) (cs : List Char) :
    Option (List Char) :=
  if cs.isEmpty then some label
  else
    match _h : decodeDigits bias cs 36 1 i with
    | none => none
    | some (j, rest) =>
        let size := label.length + 1
        let code := code + j / size
        if code.isValidChar then
          decodeFrom (insertAt label (j % size) (Char.ofNat code))
            (adapt (j - i) size first) code (j % size + 1) false rest
        else none
termination_by cs.length
decreasing_by exact decodeDigits_length _h

/-- The basic characters of an encoded label, which end at its last
hyphen, and its digits. -/
def splitBasic (cs : List Char) : List Char × List Char :=
  let tail := (cs.reverse.takeWhile (· != '-')).reverse
  if tail.length == cs.length then ([], cs)
  else (cs.take (cs.length - tail.length - 1), tail)

/-- The label that letters, digits and hyphens stand for. -/
def decode? (cs : List Char) : Option (List Char) :=
  let (basic, digits) := splitBasic cs
  if cs.all (·.toNat < initialCode) then
    decodeFrom basic initialBias initialCode 0 true digits
  else none

end ScriptScout.Web.Domain.Punycode
