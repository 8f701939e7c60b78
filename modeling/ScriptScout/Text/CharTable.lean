import ScriptScout.Text.Basic

/-!
# Tables of characters

Classes and mappings of characters that a standard lays down are
written as text, in hexadecimal codes, and read here once.

* A set lists codes and ranges: `30-39 5f`.
* A map gives each code its image, whose codes are set apart by points:
  `df:53.53`. A range whose image is one code maps along with it, so
  that `3b1-3c1:391` sends `3b2` to `392`; with `/2` only every second
  code of the range belongs to it.
-/

namespace ScriptScout.Text

def code? (digits : List Char) : Option Nat :=
  numeral? 16 0x110000 digits

/-- A range of codes, or one code. -/
def codeRange? (entry : List Char) : Option (Nat × Nat) :=
  match splitFirst? '-' entry with
  | some (first, last) => do return (← code? first, ← code? last)
  | none => (code? entry).map fun n => (n, n)

/-- The entries of the lines of a table. -/
def tableEntries (lines : List String) : List (List Char) :=
  lines.flatMap fun line => splitOn ' ' line.toList

/-! ## Sets -/

/-- A set of characters, as ranges of their codes. -/
structure CharSet where
  ranges : List (Nat × Nat)
  deriving Repr, Inhabited

namespace CharSet

def ofTable (lines : List String) : CharSet :=
  ⟨(tableEntries lines).filterMap codeRange?⟩

def contains (s : CharSet) (c : Char) : Bool :=
  s.ranges.any fun r => r.1 ≤ c.toNat && c.toNat ≤ r.2

end CharSet

/-! ## Maps -/

/-- Some characters of a map with their images. -/
structure CharRun where
  first : Nat
  last : Nat
  step : Nat
  image : List Nat
  deriving Repr, Inhabited

namespace CharRun

def ofEntry? (entry : List Char) : Option CharRun := do
  let (source, image) ← splitFirst? ':' entry
  let (range, step) :=
    match splitFirst? '/' source with
    | some (range, _) => (range, 2)
    | none => (source, 1)
  let (first, last) ← codeRange? range
  let image ← (splitOn '.' image).mapM code?
  return { first, last, step, image }

/-- The image of a character, if it belongs to the run. -/
def get? (r : CharRun) (c : Char) : Option (List Char) :=
  if r.first ≤ c.toNat && c.toNat ≤ r.last && (c.toNat - r.first) % r.step == 0 then
    match r.image with
    | [n] => some [Char.ofNat (n + (c.toNat - r.first))]
    | ns => some (ns.map Char.ofNat)
  else none

end CharRun

/-- A map from characters to texts. -/
structure CharMap where
  runs : List CharRun
  deriving Repr, Inhabited

namespace CharMap

def ofTable (lines : List String) : CharMap :=
  ⟨(tableEntries lines).filterMap CharRun.ofEntry?⟩

def get? (m : CharMap) (c : Char) : Option (List Char) :=
  m.runs.findSome? (·.get? c)

end CharMap

end ScriptScout.Text
