import ScriptScout.Proofs.Positions

/-!
# Positions are in the order of offsets

A position is read as a line first and a column on that line. In this
order the positions of a text come as its offsets do
(`position_before_iff`), so no two offsets have one position, and
`LineTable.offset` finds the offset of a position in the same table of
newlines.

One byte more before an offset moves its position forward: to the next
column, or behind a newline to the next line (`Position.behind_concat`).
Any number of bytes, with any newlines among them, is that step again
and again.
-/

namespace ScriptScout

/-! ## The order of positions -/

namespace Position

/-- The position is on an earlier line, or on the same line in an
earlier column. -/
def Before (p q : Position) : Prop :=
  p.line < q.line ∨ p.line = q.line ∧ p.column < q.column

theorem not_before_self (p : Position) : ¬ p.Before p := by
  rintro (hline | ⟨-, hcolumn⟩)
  · exact Nat.lt_irrefl _ hline
  · exact Nat.lt_irrefl _ hcolumn

theorem Before.trans {p q r : Position} (hpq : p.Before q) (hqr : q.Before r) : p.Before r := by
  unfold Before at *
  omega

/-! ## One byte more -/

theorem behind_concat (bytes : List UInt8) (b : UInt8) :
    behind (bytes ++ [b]) =
      if b = newlineByte then ⟨(behind bytes).line + 1, 1⟩
      else ⟨(behind bytes).line, (behind bytes).column + 1⟩ := by
  rw [behind, List.count_append, List.reverse_append, List.reverse_singleton,
    List.singleton_append]
  split
  · next hb =>
      subst hb
      rw [List.takeWhile_cons_of_neg (by simp), List.count_singleton_self]
      rfl
  · next hb =>
      rw [List.takeWhile_cons_of_pos (by simpa using hb), List.length_cons,
        List.count_singleton, if_neg (by simpa using hb)]
      rfl

theorem before_concat (bytes : List UInt8) (b : UInt8) :
    (behind bytes).Before (behind (bytes ++ [b])) := by
  rw [behind_concat]
  split
  · exact .inl (Nat.lt_succ_self _)
  · exact .inr ⟨rfl, Nat.lt_succ_self _⟩

theorem before_append (bytes : List UInt8) {more : List UInt8} (h : more ≠ []) :
    (behind bytes).Before (behind (bytes ++ more)) := by
  induction more using List.reverseRecOn with
  | nil => exact absurd rfl h
  | append_singleton more b ih =>
      rw [← List.append_assoc]
      by_cases hmore : more = []
      · rw [hmore, List.append_nil]
        exact before_concat bytes b
      · exact (ih hmore).trans (before_concat (bytes ++ more) b)

end Position

/-! ## Positions of offsets -/

namespace LineTable

theorem position_before {source : String} {a b : Nat} (hlt : a < b)
    (hb : b ≤ source.utf8ByteSize) :
    ((ofText source).position a).Before ((ofText source).position b) := by
  have hlength := Text.length_bytes source
  have hsplit : (Text.bytes source).take b =
      (Text.bytes source).take a ++ ((Text.bytes source).drop a).take (b - a) := by
    rw [← List.take_add, Nat.add_sub_cancel' (Nat.le_of_lt hlt)]
  have hmore : ((Text.bytes source).drop a).take (b - a) ≠ [] := by
    rw [ne_eq, ← List.length_eq_zero_iff, List.length_take, List.length_drop]
    omega
  rw [position_eq_counted, position_eq_counted, Position.counted, Position.counted,
    Nat.min_eq_left (by omega), Nat.min_eq_left (by omega), hsplit]
  exact Position.before_append _ hmore

theorem position_before_iff {source : String} {a b : Nat} (ha : a ≤ source.utf8ByteSize)
    (hb : b ≤ source.utf8ByteSize) :
    ((ofText source).position a).Before ((ofText source).position b) ↔ a < b := by
  refine ⟨fun h => ?_, fun h => position_before h hb⟩
  rcases Nat.lt_trichotomy a b with hlt | rfl | hgt
  · exact hlt
  · exact absurd h (Position.not_before_self _)
  · exact absurd (h.trans (position_before hgt ha)) (Position.not_before_self _)

/-! ## Offsets of positions -/

/-- The offset at a position: that of its line, and from there on the
columns. -/
def offset (t : LineTable) (p : Position) : Nat :=
  (if p.line = 1 then 0 else t.newlines.getD (p.line - 2) 0 + 1) + (p.column - 1)

/-- An offset is found again from its position. -/
theorem offset_position {source : String} {a : Nat} (ha : a ≤ source.utf8ByteSize) :
    (ofText source).offset ((ofText source).position a) = a := by
  rw [← Text.length_bytes] at ha
  have hlast := lastLine_add_length ((Text.bytes source).take a)
  rw [List.length_take_of_le ha] at hlast
  rw [position_eq_cut (Nat.min_eq_left ha), offset, newlines_eq_append source ha]
  have hstart := lineStart_append (((Text.bytes source).take a).idxsOf newlineByte)
    (((Text.bytes source).drop a).idxsOf newlineByte a)
  simp only [Nat.add_eq_right, Nat.reduceSubDiff, Nat.add_one_sub_one, hstart]
  omega

/-- **Positions are in the order of offsets,** up to the end of the text
and across any number of newlines. So two offsets have two positions,
and a position gives its offset back. -/
theorem position_order (source : String) {a b : Nat} (ha : a ≤ source.utf8ByteSize)
    (hb : b ≤ source.utf8ByteSize) :
    (a < b ↔ ((ofText source).position a).Before ((ofText source).position b))
    ∧ ((ofText source).position a = (ofText source).position b → a = b)
    ∧ (ofText source).offset ((ofText source).position a) = a := by
  refine ⟨(position_before_iff ha hb).symm, fun heq => ?_, offset_position ha⟩
  rw [← offset_position ha, ← offset_position hb, heq]

/-- At a newline behind a character of two bytes, and right behind the
newline. -/
theorem position_order_newline : 2 ≤ "é\nb".utf8ByteSize ∧ 3 ≤ "é\nb".utf8ByteSize
    ∧ (ofText "é\nb").position 2 = ⟨1, 3⟩ ∧ (ofText "é\nb").position 3 = ⟨2, 1⟩
    ∧ ((ofText "é\nb").position 2).Before ((ofText "é\nb").position 3)
    ∧ (ofText "é\nb").offset ⟨1, 3⟩ = 2 := by
  have hline : (ofText "é\nb").position 2 = ⟨1, 3⟩ := by
    rw [position_eq_counted]
    decide
  have hnext : (ofText "é\nb").position 3 = ⟨2, 1⟩ := by
    rw [position_eq_counted]
    decide
  obtain ⟨hbefore, -, hoffset⟩ := position_order "é\nb" (a := 2) (b := 3) (by decide) (by decide)
  exact ⟨by decide, by decide, hline, hnext, hbefore.mp (by decide), hline ▸ hoffset⟩

end LineTable

end ScriptScout
