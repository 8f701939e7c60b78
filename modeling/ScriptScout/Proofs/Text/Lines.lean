import Mathlib.Data.List.Chain
import ScriptScout.Decimal.Layout
import ScriptScout.Proofs.Text.Parts

/-!
# Lines and single spaces

A text has one line more than newlines (`length_lines`), and texts set
one below the other keep their lines (`lines_intercalate`).

`Collapsed` says what is left of a text on one line: blanks around it
are gone, and between two words one space is left. `SingleSpaced` says
how such a line looks by itself. A line that looks so is its own
collapsed form (`SingleSpaced.collapsed`), and it still looks so if it
is cut anywhere and goes on with one character that is not blank, also
right behind a space (`SingleSpaced.cut`).
-/

namespace ScriptScout.Text

/-! ## Lines of a text -/

/-- The lines of a text. -/
def lines (s : String) : List (List Char) := s.toList.splitOn '\n'

/-- How often a new line begins. -/
def breaks (s : String) : Nat := s.toList.count '\n'

@[simp] theorem breaks_append (s t : String) : breaks (s ++ t) = breaks s + breaks t := by
  rw [breaks, String.toList_append, List.count_append]
  rfl

theorem breaks_eq_zero {s : String} : breaks s = 0 ↔ '\n' ∉ s.toList := List.count_eq_zero

theorem breaks_ofList {cs : List Char} (h : '\n' ∉ cs) : breaks (String.ofList cs) = 0 := by
  rwa [breaks_eq_zero, String.toList_ofList]

theorem length_splitOn {α : Type} [BEq α] [LawfulBEq α] (sep : α) (xs : List α) :
    (xs.splitOn sep).length = xs.count sep + 1 := by
  induction xs with
  | nil => rw [List.splitOn_nil]; rfl
  | cons x xs ih =>
      rw [List.splitOn_cons_eq_if_modifyHead, List.count_cons]
      split
      · rw [List.length_cons, ih]
      · rw [List.length_modifyHead, ih, Nat.add_zero]

theorem length_lines (s : String) : (lines s).length = breaks s + 1 := length_splitOn ..

theorem lines_of_breaks {s : String} (h : breaks s = 0) : lines s = [s.toList] :=
  List.splitOn_eq_singleton (breaks_eq_zero.mp h)

/-- Texts that are set one below the other keep their lines. -/
theorem lines_intercalate {texts : List String} (h : texts ≠ []) :
    lines (String.intercalate "\n" texts) = texts.flatMap lines := by
  induction texts with
  | nil => exact absurd rfl h
  | cons s texts ih =>
      cases texts with
      | nil => simp
      | cons t texts =>
          rw [String.intercalate_cons_cons, List.flatMap_cons, ← ih (List.cons_ne_nil _ _), lines,
            String.toList_append, String.toList_append, List.append_assoc]
          exact List.splitOn_append_cons_self ..

/-! ## Numbers on one line -/

theorem newline_not_mem_toDigits {n : Nat} : '\n' ∉ Nat.toDigits 10 n := fun h => by
  have hdigit := Decimal.isDigit_toDigits n _ h
  cases hdigit

theorem breaks_toString (n : Nat) : breaks (toString n) = 0 := by
  rw [Nat.toString_eq_repr, Nat.repr_eq_ofList_toDigits]
  exact breaks_ofList newline_not_mem_toDigits

/-- A number with a fixed count of places has no newline among its
sign, its digits and its point. -/
theorem breaks_fixed (places : Nat) (x : Float) : breaks (Decimal.fixed places x) = 0 := by
  have hsign : breaks (if Decimal.isNegative x then "-" else "") = 0 := by split <;> rfl
  have hdigits (k n : Nat) : '\n' ∉ List.replicate k '0' ++ Nat.toDigits 10 n := by
    rw [List.mem_append, not_or]
    exact ⟨fun h => (nomatch List.eq_of_mem_replicate h), newline_not_mem_toDigits⟩
  have htake (k n i : Nat) :
      breaks (String.ofList ((List.replicate k '0' ++ Nat.toDigits 10 n).take i)) = 0 :=
    breaks_ofList fun h => hdigits k n (List.mem_of_mem_take h)
  have hdrop (k n i : Nat) :
      breaks (String.ofList ((List.replicate k '0' ++ Nat.toDigits 10 n).drop i)) = 0 :=
    breaks_ofList fun h => hdigits k n (List.mem_of_mem_drop h)
  simp only [Decimal.fixed]
  generalize (if Decimal.isNegative x then "-" else "") = sign at hsign ⊢
  split
  · rfl
  · split
    · rw [breaks_append, hsign]
      rfl
    · rw [breaks_append, breaks_append, hsign, htake]
      split
      · rfl
      · rw [breaks_append, hdrop]
        rfl

/-! ## One space between two words -/

/-- The line is the text with its blanks collapsed: those around the
text are left out, and those between two words become a space. -/
inductive Collapsed : List Char → List Char → Prop
  | blanks {bs : List Char} (hbs : ∀ c ∈ bs, isBlank c = true) : Collapsed bs []
  | word {bs w rest line : List Char} (hbs : ∀ c ∈ bs, isBlank c = true) (hsome : w ≠ [])
      (hw : ∀ c ∈ w, isBlank c = false) (hends : ∀ c ∈ rest.head?, isBlank c = true)
      (hrest : Collapsed rest line) :
      Collapsed (bs ++ w ++ rest) (w ++ if line = [] then [] else ' ' :: line)

/-- The text holds no blank but the space, no two spaces together and
none at either end. -/
structure SingleSpaced (cs : List Char) : Prop where
  spaces : ∀ c ∈ cs, isBlank c = true → c = ' '
  apart : cs.IsChain fun a b => isBlank a = false ∨ isBlank b = false
  first : ∀ c ∈ cs.head?, isBlank c = false
  last : ∀ c ∈ cs.getLast?, isBlank c = false

/-! ## Words -/

theorem words_of_blank {bs : List Char} (h : ∀ c ∈ bs, isBlank c = true) : words bs = [] := by
  have hnone : bs.dropWhile isBlank = [] := List.dropWhile_eq_nil_iff.mpr h
  rw [words]
  split
  · rfl
  · next c rest heq =>
      rw [hnone] at heq
      cases heq

theorem words_append {bs w rest : List Char} (hbs : ∀ c ∈ bs, isBlank c = true) (hsome : w ≠ [])
    (hw : ∀ c ∈ w, isBlank c = false) (hends : ∀ c ∈ rest.head?, isBlank c = true) :
    words (bs ++ w ++ rest) = w :: words rest := by
  obtain ⟨c, w, rfl⟩ := List.exists_cons_of_ne_nil hsome
  obtain ⟨hc, hw⟩ := List.forall_mem_cons.mp hw
  have hlead : (bs ++ (c :: w) ++ rest).dropWhile isBlank = c :: (w ++ rest) := by
    rw [List.append_assoc]
    exact dropWhile_run hbs (stopsRun_cons hc (w ++ rest))
  have hrun : ∀ d ∈ w, (!isBlank d) = true := fun d hd => congrArg (!·) (hw d hd)
  have hstop : StopsRun (!isBlank ·) rest := fun d hd => congrArg (!·) (hends d hd)
  rw [words]
  split
  · next heq =>
      rw [hlead] at heq
      cases heq
  · next d ds heq =>
      obtain ⟨rfl, rfl⟩ := List.cons.inj (hlead.symm.trans heq)
      rw [takeWhile_run hrun hstop, dropWhile_run hrun hstop]

theorem ne_nil_of_mem_words {cs w : List Char} (hw : w ∈ words cs) : w ≠ [] := by
  fun_induction words cs with
  | case1 => cases hw
  | case2 cs c rest hrest ih =>
      rcases List.mem_cons.mp hw with rfl | hw
      · exact List.cons_ne_nil _ _
      · exact ih hw

theorem intercalate_words_cons {w : List Char} {ws : List (List Char)} (h : ∀ u ∈ ws, u ≠ []) :
    List.intercalate [' '] (w :: ws) =
      w ++ if List.intercalate [' '] ws = [] then [] else ' ' :: List.intercalate [' '] ws := by
  cases ws with
  | nil => simp
  | cons u us =>
      have hu : u ≠ [] := h u List.mem_cons_self
      have hsome : List.intercalate [' '] (u :: us) ≠ [] := by
        cases us with
        | nil => simpa using hu
        | cons u' us => simp [List.intercalate_cons_cons, hu]
      rw [if_neg hsome, List.intercalate_cons_cons, List.append_assoc, List.singleton_append]

theorem collapsed_words (cs : List Char) : Collapsed cs (List.intercalate [' '] (words cs)) := by
  fun_induction words cs with
  | case1 cs hnone => exact .blanks (List.dropWhile_eq_nil_iff.mp hnone)
  | case2 cs c rest hrest ih =>
      have hfirst : isBlank c = false := by
        have hhead := List.head?_dropWhile_not isBlank cs
        rwa [hrest] at hhead
      have hcs : cs = cs.takeWhile isBlank ++ (c :: rest.takeWhile (!isBlank ·))
          ++ rest.dropWhile (!isBlank ·) := by
        rw [List.append_assoc, List.cons_append, List.takeWhile_append_dropWhile, ← hrest,
          List.takeWhile_append_dropWhile]
      rw [intercalate_words_cons fun u hu => ne_nil_of_mem_words hu]
      conv => enter [1]; rw [hcs]
      refine .word (fun d hd => List.mem_takeWhile_imp hd) (List.cons_ne_nil _ _) ?_ ?_ ih
      · rw [List.forall_mem_cons]
        exact ⟨hfirst, fun d hd => by simpa using List.mem_takeWhile_imp hd⟩
      · intro d hd
        have hhead := List.head?_dropWhile_not (!isBlank ·) rest
        rw [Option.mem_def.mp hd] at hhead
        simpa using hhead

/-- A text has one collapsed form: its words with spaces between
them. -/
theorem collapsed_iff {cs line : List Char} :
    Collapsed cs line ↔ line = List.intercalate [' '] (words cs) := by
  refine ⟨fun h => ?_, fun h => h ▸ collapsed_words cs⟩
  induction h with
  | blanks hbs => rw [words_of_blank hbs, List.intercalate_nil]
  | word hbs hsome hw hends hrest ih =>
      rw [words_append hbs hsome hw hends, ih,
        intercalate_words_cons fun u hu => ne_nil_of_mem_words hu]

/-! ## Single spaces -/

theorem singleSpaced_nil : SingleSpaced [] where
  spaces := by simp
  apart := .nil
  first := by simp
  last := by simp

theorem SingleSpaced.of_word {w : List Char} (hw : ∀ c ∈ w, isBlank c = false) :
    SingleSpaced w where
  spaces c hc hblank := by
    rw [hw c hc] at hblank
    cases hblank
  apart := (List.pairwise_of_forall_mem_list fun a ha _ _ => .inl (hw a ha)).isChain
  first c hc := hw c (List.mem_of_mem_head? hc)
  last c hc := hw c (List.mem_of_mem_getLast? hc)

theorem isBlank_space : isBlank ' ' = true := by decide

theorem getLast?_append_space {w line : List Char} (hline : line ≠ []) :
    (w ++ ' ' :: line).getLast? = line.getLast? := by
  rw [List.append_cons, List.getLast?_append, List.getLast?_eq_some_getLast hline, Option.some_or]

/-- A word, a space and a text with single spaces. -/
theorem SingleSpaced.append_word {w line : List Char} (h : SingleSpaced line) (hline : line ≠ [])
    (hsome : w ≠ []) (hw : ∀ c ∈ w, isBlank c = false) : SingleSpaced (w ++ ' ' :: line) where
  spaces := by
    rw [List.forall_mem_append, List.forall_mem_cons]
    exact ⟨(of_word hw).spaces, fun _ => rfl, h.spaces⟩
  apart := by
    refine (of_word hw).apart.append (h.apart.cons fun y hy => .inr (h.first y hy)) ?_
    exact fun x hx _ _ => .inl ((of_word hw).last x hx)
  first := by
    rw [List.head?_append_of_ne_nil _ hsome]
    exact (of_word hw).first
  last := by
    rw [getLast?_append_space hline]
    exact h.last

/-- Behind a space the text goes on, with single spaces as before. -/
theorem SingleSpaced.of_append {w line : List Char} (h : SingleSpaced (w ++ ' ' :: line)) :
    line ≠ [] ∧ SingleSpaced line := by
  have hline : line ≠ [] := by
    rintro rfl
    have hlast := h.last ' ' List.getLast?_concat
    rw [isBlank_space] at hlast
    cases hlast
  have hchain := h.apart.right_of_append
  refine ⟨hline, ⟨?_, hchain.of_cons, fun c hc => ?_, ?_⟩⟩
  · exact fun c hc => h.spaces c (List.mem_append_right _ (List.mem_cons_of_mem _ hc))
  · rcases hchain.rel_head? hc with hspace | hfirst
    · rw [isBlank_space] at hspace
      cases hspace
    · exact hfirst
  · rw [← getLast?_append_space hline]
    exact h.last

theorem Collapsed.singleSpaced {cs line : List Char} (h : Collapsed cs line) :
    SingleSpaced line := by
  induction h with
  | blanks hbs => exact singleSpaced_nil
  | word hbs hsome hw hends hrest ih =>
      split
      · rw [List.append_nil]
        exact .of_word hw
      · next hline => exact ih.append_word hline hsome hw

/-- A text that is cut somewhere and goes on with one character that is
not blank. -/
theorem SingleSpaced.cut {cs : List Char} (h : SingleSpaced cs) (n : Nat) {c : Char}
    (hc : isBlank c = false) : SingleSpaced (cs.take n ++ [c]) where
  spaces := by
    rw [List.forall_mem_append, List.forall_mem_singleton]
    refine ⟨fun d hd => h.spaces d (List.mem_of_mem_take hd), fun hblank => ?_⟩
    rw [hc] at hblank
    cases hblank
  apart := by
    refine (h.apart.take n).append (.singleton c) fun _ _ d hd => .inr ?_
    obtain rfl := Option.some.inj hd
    exact hc
  first d hd := by
    cases hcut : cs.take n with
    | nil =>
        rw [hcut] at hd
        obtain rfl := Option.some.inj hd
        exact hc
    | cons e es =>
        have hhead : cs.head? = some e := by
          rw [← List.take_append_drop n cs, hcut]
          rfl
        rw [hcut] at hd
        obtain rfl := Option.some.inj hd
        exact h.first e hhead
  last d hd := by
    rw [List.getLast?_concat] at hd
    obtain rfl := Option.some.inj hd
    exact hc

theorem Collapsed.cons_blank {b : Char} {cs line : List Char} (hb : isBlank b = true)
    (h : Collapsed cs line) : Collapsed (b :: cs) line := by
  cases h with
  | blanks hbs => exact .blanks (List.forall_mem_cons.mpr ⟨hb, hbs⟩)
  | word hbs hsome hw hends hrest =>
      exact .word (List.forall_mem_cons.mpr ⟨hb, hbs⟩) hsome hw hends hrest

theorem Collapsed.append_word {w cs line : List Char} (h : Collapsed cs line) (hsome : w ≠ [])
    (hw : ∀ c ∈ w, isBlank c = false) (hends : ∀ c ∈ cs.head?, isBlank c = true) :
    Collapsed (w ++ cs) (w ++ if line = [] then [] else ' ' :: line) := by
  have hnone : ∀ c ∈ ([] : List Char), isBlank c = true := by simp
  exact .word hnone hsome hw hends h

/-- A text with single spaces is collapsed. The induction takes its
words off from the front. -/
theorem SingleSpaced.collapsed {cs : List Char} (h : SingleSpaced cs) : Collapsed cs cs := by
  induction hlength : cs.length using Nat.strong_induction_on generalizing cs with
  | _ n ih =>
      obtain ⟨w, rest, rfl, hw, hstop⟩ := exists_run (!isBlank ·) cs
      have hw : ∀ c ∈ w, isBlank c = false := fun c hc => by simpa using hw c hc
      have hnil : Collapsed [] [] := .blanks (by simp)
      cases rest with
      | nil =>
          by_cases hsome : w = []
          · rwa [hsome]
          · simpa using hnil.append_word hsome hw (by simp)
      | cons b line =>
          have hb : isBlank b = true := by simpa using hstop b rfl
          obtain rfl := h.spaces b (by simp) hb
          obtain ⟨hline, hspaced⟩ := h.of_append
          have hsome : w ≠ [] := by
            rintro rfl
            have hfirst := h.first ' ' rfl
            rw [hb] at hfirst
            cases hfirst
          have hrest : Collapsed line line := by
            refine ih line.length ?_ hspaced rfl
            rw [← hlength, List.length_append, List.length_cons]
            omega
          have hends : ∀ c ∈ (' ' :: line).head?, isBlank c = true := by simpa using hb
          simpa [hline] using (hrest.cons_blank hb).append_word hsome hw hends

end ScriptScout.Text
