/-!
# Plain operations on text

Text is worked on as a list of characters. Here are the operations that
know nothing of what a text is about: searching and splitting, leaving
out blanks, comparing without case, and reading digits.
-/

namespace ScriptScout.Text

/-! ## Searching and splitting -/

/-- Does `needle` stand somewhere in the text? -/
def contains (needle : List Char) : List Char → Bool
  | [] => needle.isEmpty
  | c :: cs => needle.isPrefixOf (c :: cs) || contains needle cs

/-- What follows `lead` in a text that starts with it. -/
def afterLead? (lead cs : List Char) : Option (List Char) :=
  if lead.isPrefixOf cs then some (cs.drop lead.length) else none

/-- The pieces between the separators; there is one more piece than
there are separators. -/
def splitOn (sep : Char) : List Char → List (List Char)
  | [] => [[]]
  | c :: cs =>
      if c == sep then [] :: splitOn sep cs
      else
        match splitOn sep cs with
        | [] => [[c]]
        | piece :: pieces => (c :: piece) :: pieces

/-- The text before and after the first separator. -/
def splitFirst? (sep : Char) : List Char → Option (List Char × List Char)
  | [] => none
  | c :: cs =>
      if c == sep then some ([], cs)
      else (splitFirst? sep cs).map fun p => (c :: p.1, p.2)

/-- The text before and after the last separator. -/
def splitLast? (sep : Char) : List Char → Option (List Char × List Char)
  | [] => none
  | c :: cs =>
      match splitLast? sep cs with
      | some p => some (c :: p.1, p.2)
      | none => if c == sep then some ([], cs) else none

/-! ## Blank characters -/

/-- Has the character the Unicode property White_Space? -/
def isBlank (c : Char) : Bool :=
  let n := c.toNat
  (0x09 ≤ n && n ≤ 0x0D) || n == 0x20 || n == 0x85 || n == 0xA0
    || n == 0x1680 || (0x2000 ≤ n && n ≤ 0x200A) || n == 0x2028
    || n == 0x2029 || n == 0x202F || n == 0x205F || n == 0x3000

/-- Removes blank characters from the end. -/
def trimEnd (cs : List Char) : List Char :=
  (cs.reverse.dropWhile isBlank).reverse

/-- Removes blank characters from both ends. -/
def trim (cs : List Char) : List Char :=
  trimEnd (cs.dropWhile isBlank)

/-- The maximal runs of non-blank characters, in order. -/
def words (cs : List Char) : List (List Char) :=
  match _h : cs.dropWhile isBlank with
  | [] => []
  | c :: rest =>
      (c :: rest.takeWhile (!isBlank ·)) :: words (rest.dropWhile (!isBlank ·))
termination_by cs.length
decreasing_by
  have h1 := (List.dropWhile_suffix (l := cs) isBlank).length_le
  have h2 := (List.dropWhile_suffix (l := rest) (!isBlank ·)).length_le
  rw [_h] at h1
  simp at h1
  omega

/-! ## Comparing without case

Two texts are the same but for case if their folded forms are equal.
Only the case of the basic letters matters here, and two characters
beyond them fold to one: the long s and the sign of the kelvin. -/

/-- The small form of a basic letter in any case. -/
def foldChar (c : Char) : Char :=
  if c == 'ſ' then 's' else if c == 'K' then 'k' else c.toLower

def fold (cs : List Char) : List Char := cs.map foldChar

/-! ## Hexadecimal digits -/

/-- The value of a hexadecimal digit in either case. -/
def hexValue? (c : Char) : Option Nat :=
  if '0' ≤ c ∧ c ≤ '9' then some (c.toNat - '0'.toNat)
  else if 'a' ≤ c ∧ c ≤ 'f' then some (c.toNat - 'a'.toNat + 10)
  else if 'A' ≤ c ∧ c ≤ 'F' then some (c.toNat - 'A'.toNat + 10)
  else none

/-- The lower-case digit of a value below sixteen. -/
def hexDigit (n : Nat) : Char :=
  (Nat.toDigits 16 n).headD '0'

/-- The number that digits write in a base of at most sixteen, if it
is below `bound`. -/
def numeral? (base bound : Nat) (digits : List Char) : Option Nat := do
  guard !digits.isEmpty
  digits.foldlM (fun n c => do
    let d ← hexValue? c
    guard (d < base)
    let next := base * n + d
    guard (next < bound)
    return next) 0

end ScriptScout.Text
