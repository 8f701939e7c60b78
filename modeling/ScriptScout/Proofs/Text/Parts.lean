import Mathlib.Data.List.Infix
import Mathlib.Data.List.TakeWhile
import ScriptScout.Decimal.Reader
import ScriptScout.Text.Basic

/-!
# Parts of a text

Texts are put together from parts and read again without marks of where
a part ends. A reader finds the end by the class of the characters: the
part is a run of a class, and what follows does not go on with it
(`takeWhile_run`). So a text that starts with such a run determines the
run and the rest (`append_inj_of_run`), and if that holds of every item,
a list of items with separators determines the items (`flatMap_inj`).

A search and a split are said by the parts as well: what stands before
and behind a separator, and which of them has none
(`eq_append_of_splitLast?`). Blanks at the ends of a text are parts that
are left out (`exists_append_trim`), and a beginning without blanks is
kept (`prefix_trimEnd`). Digits that are written are digits again when
they are read, with the value that was written.
-/

namespace ScriptScout

namespace Text

/-! ## Runs -/

/-- The text does not go on with a character of a class. -/
def StopsRun (p : Char → Bool) (rest : List Char) : Prop :=
  ∀ c ∈ rest.head?, p c = false

section

variable {p : Char → Bool}

theorem stopsRun_nil : StopsRun p [] := by
  intro c hc
  cases hc

theorem stopsRun_cons {c : Char} (h : p c = false) (rest : List Char) : StopsRun p (c :: rest) := by
  intro d hd
  obtain rfl := Option.some.inj hd
  exact h

theorem takeWhile_run {run rest : List Char} (hrun : ∀ c ∈ run, p c = true)
    (hrest : StopsRun p rest) : (run ++ rest).takeWhile p = run := by
  rw [List.takeWhile_append_of_pos hrun]
  cases rest with
  | nil => rw [List.takeWhile_nil, List.append_nil]
  | cons c rest =>
      have hc : ¬p c = true := by
        rw [hrest c rfl]
        exact Bool.false_ne_true
      rw [List.takeWhile_cons_of_neg hc, List.append_nil]

theorem dropWhile_run {run rest : List Char} (hrun : ∀ c ∈ run, p c = true)
    (hrest : StopsRun p rest) : (run ++ rest).dropWhile p = rest := by
  rw [List.dropWhile_append_of_pos hrun]
  cases rest with
  | nil => rfl
  | cons c rest =>
      have hc : ¬p c = true := by
        rw [hrest c rfl]
        exact Bool.false_ne_true
      rw [List.dropWhile_cons_of_neg hc]

/-- Every text starts with a run, which may be empty. -/
theorem exists_run (p : Char → Bool) (cs : List Char) :
    ∃ run rest, cs = run ++ rest ∧ (∀ c ∈ run, p c = true) ∧ StopsRun p rest := by
  refine ⟨cs.takeWhile p, cs.dropWhile p, List.takeWhile_append_dropWhile.symm,
    fun c hc => List.mem_takeWhile_imp hc, ?_⟩
  intro c hc
  have hhead := cs.head?_dropWhile_not p
  rwa [Option.mem_def.mp hc] at hhead

/-- Two texts that start with runs of a class, and stop there, have the
same run and go on in the same way. -/
theorem append_inj_of_run {xs ys r s : List Char} (hxs : ∀ c ∈ xs, p c = true)
    (hys : ∀ c ∈ ys, p c = true) (hr : StopsRun p r) (hs : StopsRun p s)
    (h : xs ++ r = ys ++ s) : xs = ys ∧ r = s := by
  have hsame : xs = ys := by
    rw [← takeWhile_run hxs hr, h, takeWhile_run hys hs]
  subst hsame
  exact ⟨rfl, List.append_cancel_left h⟩

end

/-! ## Separators -/

/-- Nothing follows, or a separator. -/
def Follows (sep rest : List Char) : Prop := rest = [] ∨ ∃ more, rest = sep ++ more

section

variable {α : Type} {sep : List Char} {text : α → List Char}

theorem follows_flatMap (sep : List Char) (text : α → List Char) (as : List α) :
    Follows sep (as.flatMap fun a => sep ++ text a) := by
  cases as with
  | nil => exact Or.inl rfl
  | cons a as =>
      refine Or.inr ⟨text a ++ as.flatMap fun a => sep ++ text a, ?_⟩
      rw [List.flatMap_cons, List.append_assoc]

theorem Follows.stopsRun {rest : List Char} {p : Char → Bool} (h : Follows sep rest)
    (hne : sep ≠ []) (hsep : StopsRun p sep) : StopsRun p rest := by
  rcases h with rfl | ⟨more, rfl⟩
  · exact stopsRun_nil
  · obtain ⟨c, cs, rfl⟩ := List.exists_cons_of_ne_nil hne
    exact stopsRun_cons (hsep c rfl) _

/-- Texts that can be told apart one at a time can be told apart in a
list with separators. -/
theorem flatMap_inj (hne : sep ≠ [])
    (htold : ∀ {a b r s}, Follows sep r → Follows sep s → text a ++ r = text b ++ s →
      a = b ∧ r = s) {as bs : List α}
    (h : (as.flatMap fun a => sep ++ text a) = bs.flatMap fun b => sep ++ text b) :
    as = bs := by
  have hcons (c : α) (cs : List α) : ((c :: cs).flatMap fun a => sep ++ text a) ≠ [] := by
    rw [List.flatMap_cons, List.append_assoc]
    exact List.append_ne_nil_of_left_ne_nil hne _
  induction as generalizing bs with
  | nil =>
      cases bs with
      | nil => rfl
      | cons b bs => exact absurd h.symm (hcons b bs)
  | cons a as ih =>
      cases bs with
      | nil => exact absurd h (hcons a as)
      | cons b bs =>
          rw [List.flatMap_cons, List.flatMap_cons, List.append_assoc, List.append_assoc] at h
          obtain ⟨rfl, hrest⟩ := htold (follows_flatMap sep text as) (follows_flatMap sep text bs)
            (List.append_cancel_left h)
          rw [ih hrest]

end

/-! ## Searches and splits -/

theorem contains_iff {needle cs : List Char} :
    contains needle cs = true ↔ needle <:+: cs := by
  induction cs with
  | nil => rw [contains, List.isEmpty_iff, List.infix_nil]
  | cons c cs ih =>
      rw [contains, Bool.or_eq_true, List.isPrefixOf_iff_prefix, ih, List.infix_cons_iff]

theorem splitOn_eq (sep : Char) (cs : List Char) : splitOn sep cs = List.splitOn sep cs := by
  induction cs with
  | nil => rfl
  | cons c cs ih =>
      simp only [List.splitOn, List.splitOnP_cons_eq_if_modifyHead] at ih ⊢
      rw [splitOn, ih]
      split
      · rfl
      · cases hsplit : List.splitOnP (· == sep) cs with
        | nil => exact absurd hsplit (List.splitOnP_ne_nil _ cs)
        | cons piece pieces => rfl

theorem not_mem_of_mem_splitOn {sep : Char} {cs piece : List Char}
    (h : piece ∈ splitOn sep cs) : sep ∉ piece := by
  induction cs generalizing piece with
  | nil =>
      obtain rfl := List.mem_singleton.mp h
      simp
  | cons c cs ih =>
      rw [splitOn] at h
      split at h
      · rcases List.mem_cons.mp h with rfl | h
        · simp
        · exact ih h
      next hc =>
        have hne : sep ≠ c := fun heq => hc (by simp [heq])
        split at h
        · obtain rfl := List.mem_singleton.mp h
          simpa using hne
        next first pieces hsplit =>
          rw [hsplit] at ih
          rcases List.mem_cons.mp h with rfl | h
          · simpa [hne] using ih List.mem_cons_self
          · exact ih (List.mem_cons_of_mem _ h)

theorem exists_splitOn_eq_cons (sep : Char) (cs : List Char) :
    ∃ first rest, splitOn sep cs = first :: rest := by
  rw [splitOn_eq]
  exact List.exists_cons_of_ne_nil (List.splitOnP_ne_nil _ cs)

theorem eq_nil_of_splitOn {sep : Char} {cs : List Char} (h : splitOn sep cs = [[]]) : cs = [] := by
  rw [splitOn_eq] at h
  have hjoined : [sep].intercalate (List.splitOn sep cs) = cs := List.intercalate_splitOn sep
  rw [h] at hjoined
  exact hjoined.symm

theorem splitFirst?_append {sep : Char} {xs : List Char} (h : ∀ c ∈ xs, (c == sep) = false)
    (ys : List Char) : splitFirst? sep (xs ++ sep :: ys) = some (xs, ys) := by
  induction xs with
  | nil => simp [splitFirst?]
  | cons x xs ih =>
      have hx := h x (List.mem_cons_self ..)
      have hxs := ih fun c hc => h c (List.mem_cons_of_mem _ hc)
      rw [List.cons_append, splitFirst?, hxs, hx]
      rfl

/-- What stands before one separator stands before the last one. -/
theorem exists_splitLast?_append (sep : Char) (xs ys : List Char) :
    ∃ mid rest, splitLast? sep (xs ++ sep :: ys) = some (xs ++ mid, rest) := by
  induction xs with
  | nil =>
      cases h : splitLast? sep ys with
      | none => exact ⟨[], ys, by simp [splitLast?, h]⟩
      | some p => exact ⟨sep :: p.1, p.2, by simp [splitLast?, h]⟩
  | cons x xs ih =>
      obtain ⟨mid, rest, h⟩ := ih
      exact ⟨mid, rest, by simp [splitLast?, h]⟩

theorem eq_append_of_splitLast? {sep : Char} {cs front rest : List Char}
    (h : splitLast? sep cs = some (front, rest)) : cs = front ++ sep :: rest ∧ sep ∉ rest := by
  have hnone {ds : List Char} (hds : splitLast? sep ds = none) : sep ∉ ds := by
    intro hmem
    obtain ⟨xs, ys, rfl⟩ := List.append_of_mem hmem
    obtain ⟨mid, rest, hsome⟩ := exists_splitLast?_append sep xs ys
    rw [hds] at hsome
    cases hsome
  induction cs generalizing front with
  | nil => cases h
  | cons c cs ih =>
      rw [splitLast?] at h
      split at h
      · next p hp =>
          obtain ⟨rfl, rfl⟩ := Prod.mk.inj (Option.some.inj h)
          obtain ⟨heq, hrest⟩ := ih hp
          exact ⟨congrArg (c :: ·) heq, hrest⟩
      · next hlast =>
          split at h
          · next hc =>
              obtain rfl := beq_iff_eq.mp hc
              obtain ⟨rfl, rfl⟩ := Prod.mk.inj (Option.some.inj h)
              exact ⟨rfl, hnone hlast⟩
          · cases h

/-! ## Blanks at the ends -/

theorem exists_append_trimEnd (cs : List Char) :
    ∃ blanks, cs = trimEnd cs ++ blanks ∧ ∀ c ∈ blanks, isBlank c = true := by
  refine ⟨(cs.reverse.takeWhile isBlank).reverse, ?_, fun c hc => ?_⟩
  · rw [trimEnd, ← List.reverse_append, List.takeWhile_append_dropWhile, List.reverse_reverse]
  · exact List.mem_takeWhile_imp (List.mem_reverse.mp hc)

theorem trimEnd_below (cs : List Char) : trimEnd cs <+: cs := by
  obtain ⟨blanks, heq, -⟩ := exists_append_trimEnd cs
  exact ⟨blanks, heq.symm⟩

/-- More text behind it takes nothing away from a text. -/
theorem trimEnd_prefix_append (cs more : List Char) : trimEnd cs <+: trimEnd (cs ++ more) := by
  rw [trimEnd, trimEnd, List.reverse_append, List.dropWhile_append]
  split
  · exact List.prefix_rfl
  · rw [List.reverse_append, List.reverse_reverse]
    exact (trimEnd_below cs).trans (List.prefix_append ..)

/-- What stands before a character that is missing in a beginning of a
text holds all of that beginning. -/
theorem prefix_of_not_mem {start before after : List Char} {c : Char}
    (h : start <+: before ++ c :: after) (hc : c ∉ start) : start <+: before := by
  rcases List.prefix_or_prefix_of_prefix h (List.prefix_append before (c :: after)) with hle | hle
  · exact hle
  · obtain ⟨rest, rfl⟩ := hle
    rw [List.prefix_append_right_inj] at h
    cases rest with
    | nil => rw [List.append_nil]
    | cons d rest =>
        obtain ⟨rfl, -⟩ := List.cons_prefix_cons.mp h
        exact absurd (List.mem_append_right _ (List.mem_cons_self ..)) hc

/-- A beginning without blanks is not touched. -/
theorem prefix_trimEnd {start cs : List Char} (h : start <+: cs)
    (hblank : ∀ c ∈ start, isBlank c = false) : start <+: trimEnd cs := by
  obtain ⟨blanks, heq, hblanks⟩ := exists_append_trimEnd cs
  rw [heq] at h
  cases blanks with
  | nil => rwa [List.append_nil] at h
  | cons b blanks =>
      refine prefix_of_not_mem h fun hb => ?_
      have hnot := hblank b hb
      rw [hblanks b (List.mem_cons_self ..)] at hnot
      cases hnot

theorem exists_trimEnd_cons {c : Char} (hc : isBlank c = false) (cs : List Char) :
    ∃ ds, trimEnd (c :: cs) = c :: ds := by
  obtain ⟨ds, hds⟩ : [c] <+: trimEnd (c :: cs) :=
    prefix_trimEnd (List.prefix_append [c] cs) (List.forall_mem_singleton.mpr hc)
  exact ⟨ds, hds.symm⟩

/-- A text is what is left of it without the blanks around it, and
these blanks. -/
theorem exists_append_trim (cs : List Char) : ∃ lead tail, cs = lead ++ trim cs ++ tail
    ∧ (∀ c ∈ lead, isBlank c = true) ∧ ∀ c ∈ tail, isBlank c = true := by
  obtain ⟨tail, heq, htail⟩ := exists_append_trimEnd (cs.dropWhile isBlank)
  refine ⟨cs.takeWhile isBlank, tail, ?_, fun c hc => List.mem_takeWhile_imp hc, htail⟩
  rw [List.append_assoc, trim, ← heq, List.takeWhile_append_dropWhile]

theorem exists_of_trim_ne_nil {cs : List Char} (h : trim cs ≠ []) :
    ∃ c ∈ cs, isBlank c = false := by
  by_contra hnone
  have hblank : ∀ c ∈ cs, isBlank c = true := by simpa using hnone
  rw [trim, List.dropWhile_eq_nil_iff.mpr hblank] at h
  exact h rfl

theorem trim_prefix_append (cs more : List Char) : trim cs <+: trim (cs ++ more) := by
  rw [trim, trim, List.dropWhile_append]
  split
  · next hempty =>
      rw [List.isEmpty_iff.mp hempty]
      exact List.nil_prefix
  · exact trimEnd_prefix_append _ more

theorem trim_eq_self {c d : Char} {cs ds : List Char} (hc : isBlank c = false)
    (hd : isBlank d = false) (h : c :: cs = ds ++ [d]) : trim (c :: cs) = c :: cs := by
  have hlead : (c :: cs).dropWhile isBlank = c :: cs := by
    rw [List.dropWhile_cons_of_neg (by simp [hc])]
  rw [trim, hlead, trimEnd, h, List.reverse_append, List.reverse_singleton,
    List.singleton_append, List.dropWhile_cons_of_neg (by simp [hd]), List.reverse_cons,
    List.reverse_reverse]

/-! ## Spellings -/

theorem mem_fold_of_mem {c : Char} {cs : List Char} (h : c ∈ cs) :
    foldChar c ∈ fold cs := List.mem_map_of_mem h

theorem foldChar_eq_toLower {c : Char} (hlong : c ≠ 'ſ') (hkelvin : c ≠ 'K') :
    foldChar c = c.toLower := by
  rw [foldChar, if_neg (by simpa using hlong), if_neg (by simpa using hkelvin)]

theorem toLower_of_isBlank {c : Char} (h : isBlank c = true) : c.toLower = c := by
  have hrange : ¬(c.val ≥ 'A'.val ∧ c.val ≤ 'Z'.val) := by
    rintro ⟨hlow, hhigh⟩
    have hlow : 65 ≤ c.toNat := UInt32.le_iff_toNat_le.mp hlow
    have hhigh : c.toNat ≤ 90 := UInt32.le_iff_toNat_le.mp hhigh
    simp [isBlank] at h
    omega
  exact dif_neg hrange

theorem foldChar_of_isBlank {c : Char} (h : isBlank c = true) : foldChar c = c := by
  rw [foldChar_eq_toLower, toLower_of_isBlank h]
  · rintro rfl
    exact absurd h (by decide)
  · rintro rfl
    exact absurd h (by decide)

/-! ## Digits and escapes -/

theorem hexValue?_hexDigit : ∀ n < 16, hexValue? (hexDigit n) = some n := by decide

theorem hexValue?_toUpper_hexDigit : ∀ n < 16, hexValue? (hexDigit n).toUpper = some n := by decide

end Text

/-- What is escaped does not get shorter. -/
theorem length_le_flatMap {α β : Type} {f : α → List β} (h : ∀ a, f a ≠ []) (xs : List α) :
    xs.length ≤ (xs.flatMap f).length := by
  induction xs with
  | nil => exact Nat.le_refl _
  | cons a xs ih =>
      have hpos := List.length_pos_iff.mpr (h a)
      rw [List.flatMap_cons, List.length_append, List.length_cons]
      omega

namespace Decimal

theorem digitsValue_toDigits (n : Nat) : digitsValue (Nat.toDigits 10 n) = n :=
  Nat.ofDigitChars_ten_toDigits

theorem isDigit_toDigits (n : Nat) : ∀ c ∈ Nat.toDigits 10 n, c.isDigit = true :=
  fun _ hc => Nat.isDigit_of_mem_toDigits (by decide) (by decide) hc

/-- Only zero starts with the digit zero. -/
theorem head?_toDigits_ne_zero {n : Nat} (h : n ≠ 0) : (Nat.toDigits 10 n).head? ≠ some '0' := by
  induction n using Nat.strongRecOn with
  | _ n ih =>
      by_cases hsmall : n < 10
      · rw [Nat.toDigits_of_lt_base hsmall, List.head?_cons, ne_eq, Option.some.injEq,
          Nat.digitChar_eq_zero]
        exact h
      · have hlarge : 10 ≤ n := Nat.le_of_not_lt hsmall
        have hrest := ih (n / 10) (by omega) (by omega)
        have hne : Nat.toDigits 10 (n / 10) ≠ [] := Nat.toDigits_ne_nil
        obtain ⟨c, cs, hcs⟩ := List.exists_cons_of_ne_nil hne
        rw [hcs] at hrest
        rwa [Nat.toDigits_of_base_le (by decide) hlarge, hcs]

end Decimal

end ScriptScout
