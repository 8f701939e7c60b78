/-!
# Byte offsets, spans and positions

Source offsets count the bytes of the UTF-8 form, while text is held
as characters. The bridge is the byte length of a list of characters,
and cutting a list at a byte offset, which succeeds exactly on character
boundaries (`splitAtByte?_append`).

A span is a half-open range of byte offsets into a source text. Spans
identify what has been reported already, so they are compared and
hashed; the text under a span that does not fit the source is empty.

A position is a one-based line and a one-based byte column. Positions
are looked up in a table of newline offsets, built once per source,
by bisection.
-/

namespace ScriptScout

/-! ## Byte offsets -/

namespace Text

/-- The number of bytes that the characters take in UTF-8. -/
def byteLength : List Char → Nat
  | [] => 0
  | c :: cs => c.utf8Size + byteLength cs

@[simp] theorem byteLength_nil : byteLength [] = 0 := rfl

@[simp] theorem byteLength_cons (c : Char) (cs : List Char) :
    byteLength (c :: cs) = c.utf8Size + byteLength cs := rfl

@[simp] theorem byteLength_append (xs ys : List Char) :
    byteLength (xs ++ ys) = byteLength xs + byteLength ys := by
  induction xs with
  | nil => simp
  | cons c cs ih => simp [ih, Nat.add_assoc]

/-- Cuts the characters at byte offset `n`; fails if `n` lies inside a
character or beyond the end. -/
def splitAtByte? : List Char → Nat → Option (List Char × List Char)
  | cs, 0 => some ([], cs)
  | [], _ + 1 => none
  | c :: cs, n + 1 =>
      if c.utf8Size ≤ n + 1 then
        (splitAtByte? cs (n + 1 - c.utf8Size)).map fun p => (c :: p.1, p.2)
      else none

/-- The characters between two byte offsets, if both are boundaries. -/
def slice? (cs : List Char) (start stop : Nat) : Option (List Char) := do
  guard (start ≤ stop)
  let (_, tail) ← splitAtByte? cs start
  let (inner, _) ← splitAtByte? tail (stop - start)
  return inner

theorem splitAtByte?_append (xs ys : List Char) :
    splitAtByte? (xs ++ ys) (byteLength xs) = some (xs, ys) := by
  induction xs with
  | nil => simp [splitAtByte?]
  | cons c cs ih =>
      have hpos : 0 < c.utf8Size := Char.utf8Size_pos c
      obtain ⟨k, hk⟩ : ∃ k, c.utf8Size + byteLength cs = k + 1 :=
        ⟨c.utf8Size + byteLength cs - 1, by omega⟩
      have hrest : k + 1 - c.utf8Size = byteLength cs := by omega
      rw [byteLength_cons, List.cons_append, hk, splitAtByte?,
        if_pos (by omega), hrest, ih]
      rfl

end Text

/-! ## Spans -/

/-- A half-open range of byte offsets. Nothing is assumed of the two
ends: a span need not fit any text. -/
structure Span where
  start : Nat
  stop : Nat
  deriving Repr, DecidableEq, Hashable, Inhabited

/-- The text under a span: empty if the span does not cut `source` at
character boundaries. -/
def Span.text (s : Span) (source : String) : String :=
  match Text.slice? source.toList s.start s.stop with
  | some cs => String.ofList cs
  | none => ""

/-! ## Lines and columns -/

/-- A one-based line and a one-based column, counted in bytes. -/
structure Position where
  line : Nat
  column : Nat
  deriving Repr, DecidableEq, Inhabited

/-- The byte offsets of the newlines of a text, in order, and the
text's byte length. -/
structure LineTable where
  newlines : Array Nat
  size : Nat
  deriving Repr, Inhabited

namespace LineTable

/-- The offsets of the newlines among `cs`, the first of which stands
at byte offset `at'`. -/
def newlinesFrom (at' : Nat) : List Char → List Nat
  | [] => []
  | c :: cs =>
      if c = '\n' then at' :: newlinesFrom (at' + c.utf8Size) cs
      else newlinesFrom (at' + c.utf8Size) cs

def ofText (source : String) : LineTable where
  newlines := (newlinesFrom 0 source.toList).toArray
  size := Text.byteLength source.toList

/-- How many entries of the sorted table `offsets` lie below `bound`,
given that those before `lo` do and those from `hi` on do not. -/
def bisect (offsets : Array Nat) (bound lo hi : Nat) : Nat :=
  if h : lo < hi then
    let mid := (lo + hi) / 2
    if offsets.getD mid 0 < bound then bisect offsets bound (mid + 1) hi
    else bisect offsets bound lo mid
  else lo
termination_by hi - lo

/-- The position of a byte offset; offsets beyond the end count as the
end. -/
def position (t : LineTable) (offset : Nat) : Position :=
  let offset := min offset t.size
  let before := bisect t.newlines offset 0 t.newlines.size
  let lineStart := if before = 0 then 0 else t.newlines.getD (before - 1) 0 + 1
  { line := before + 1, column := offset - lineStart + 1 }

end LineTable

end ScriptScout
