import ScriptScout.Proofs.KeywordKind
import ScriptScout.Proofs.Rebuilt
import ScriptScout.Proofs.TemplateKind
import ScriptScout.Proofs.Text.Parts

/-!
# The grammar of braces

Whether the braces of a text match is tested by counting: a counter
goes up and down, never below zero, and ends at zero. What is meant is
a grammar: the braces of the text, alone, are empty or a pair around
matched braces, with matched braces behind it (`Matched`). The two are
the same (`isBalanced_iff_matched`).

A text in which some braces are open already is not a word of the
grammar but a word for each open brace, each closed in turn (`Closes`),
and that is what the counter stands for in the middle of a text.

All that passes for a query, a fragment or a schema is matched if it
has an opening brace, since each of the three branches of the test
counts (`matched_of_isPlausible`).
-/

namespace ScriptScout

namespace Graphql

open ScriptScout.Text (isBlank trim)

/-! ## Words of the grammar -/

/-- The words of the grammar that has two rules: a word is empty, or it
is a pair of braces around a word, with a word behind it. -/
inductive Matched : List Char → Prop
  | empty : Matched []
  | pair {inner rest : List Char} (hinner : Matched inner) (hrest : Matched rest) :
      Matched ('\x7b' :: (inner ++ '\x7d' :: rest))

theorem Matched.append {w v : List Char} (hw : Matched w) (hv : Matched v) : Matched (w ++ v) := by
  induction hw with
  | empty => exact hv
  | @pair inner rest hinner _ _ ih =>
      rw [List.cons_append, List.append_assoc, List.cons_append]
      exact .pair hinner ih

/-- A word that starts with a closing brace does not match. -/
theorem not_matched_close {w : List Char} : ¬ Matched ('\x7d' :: w) := by
  intro h
  cases h

theorem matched_open_iff {w : List Char} : Matched ('\x7b' :: w) ↔
    ∃ inner rest, w = inner ++ '\x7d' :: rest ∧ Matched inner ∧ Matched rest := by
  constructor
  · rintro (_ | ⟨hinner, hrest⟩)
    exact ⟨_, _, rfl, hinner, hrest⟩
  · rintro ⟨inner, rest, rfl, hinner, hrest⟩
    exact .pair hinner hrest

/-- The word closes a number of braces that are open before it, with a
matched word before each of them and one at the end. -/
inductive Closes : Nat → List Char → Prop
  | none {w : List Char} (hw : Matched w) : Closes 0 w
  | one {depth : Nat} {w rest : List Char} (hw : Matched w) (hrest : Closes depth rest) :
      Closes (depth + 1) (w ++ '\x7d' :: rest)

theorem closes_zero_iff {w : List Char} : Closes 0 w ↔ Matched w := by
  refine ⟨fun h => ?_, .none⟩
  cases h with
  | none hw => exact hw

theorem closes_succ_iff {depth : Nat} {w : List Char} : Closes (depth + 1) w ↔
    ∃ inner rest, w = inner ++ '\x7d' :: rest ∧ Matched inner ∧ Closes depth rest := by
  constructor
  · rintro (_ | ⟨hw, hrest⟩)
    exact ⟨_, _, rfl, hw, hrest⟩
  · rintro ⟨inner, rest, rfl, hinner, hrest⟩
    exact .one hinner hrest

theorem closes_nil_iff {depth : Nat} : Closes depth [] ↔ depth = 0 := by
  cases depth with
  | zero => exact iff_of_true (.none .empty) rfl
  | succ depth => simp [closes_succ_iff]

theorem Closes.prepend {depth : Nat} {w v : List Char} (hw : Matched w) (hv : Closes depth v) :
    Closes depth (w ++ v) := by
  cases hv with
  | none hv => exact .none (hw.append hv)
  | one hv hrest =>
      rw [← List.append_assoc]
      exact .one (hw.append hv) hrest

/-- An opening brace is one more to be closed. -/
theorem closes_open_iff {depth : Nat} {w : List Char} :
    Closes depth ('\x7b' :: w) ↔ Closes (depth + 1) w := by
  rw [closes_succ_iff]
  constructor
  · intro h
    cases depth with
    | zero =>
        obtain ⟨inner, rest, rfl, hinner, hrest⟩ := matched_open_iff.mp (closes_zero_iff.mp h)
        exact ⟨inner, rest, rfl, hinner, .none hrest⟩
    | succ depth =>
        obtain ⟨lead, rest, heq, hlead, hrest⟩ := closes_succ_iff.mp h
        -- the brace stands in the part before the first one that is closed
        cases hlead with
        | empty => cases heq
        | @pair inner more hinner hmore =>
            obtain ⟨-, rfl⟩ := List.cons.inj heq
            exact ⟨inner, more ++ '\x7d' :: rest, by simp, hinner, .one hmore hrest⟩
  · rintro ⟨inner, rest, rfl, hinner, hrest⟩
    have hpair : Matched ('\x7b' :: (inner ++ ['\x7d'])) := .pair hinner .empty
    simpa using Closes.prepend hpair hrest

/-- A closing brace closes the last that is open, and there has to be
one. -/
theorem closes_close_iff {depth : Nat} {w : List Char} :
    Closes depth ('\x7d' :: w) ↔ ∃ left, depth = left + 1 ∧ Closes left w := by
  constructor
  · intro h
    cases depth with
    | zero => exact absurd (closes_zero_iff.mp h) not_matched_close
    | succ depth =>
        obtain ⟨lead, rest, heq, hlead, hrest⟩ := closes_succ_iff.mp h
        cases hlead with
        | empty =>
            obtain ⟨-, rfl⟩ := List.cons.inj heq
            exact ⟨depth, rfl, hrest⟩
        | pair hinner hmore => cases heq
  · rintro ⟨left, rfl, hw⟩
    exact .one .empty hw

/-! ## Counting -/

/-- The counter stands for the braces that are open. -/
theorem balancedFrom_iff_closes (depth : Nat) (cs : List Char) :
    balancedFrom depth cs = true ↔ Closes depth (cs.filter isBrace) := by
  induction cs generalizing depth with
  | nil => rw [List.filter_nil, closes_nil_iff, balancedFrom, beq_iff_eq]
  | cons c cs ih =>
      by_cases hopen : c = '\x7b'
      · subst hopen
        have hstep : balancedFrom depth ('\x7b' :: cs) = balancedFrom (depth + 1) cs := rfl
        rw [hstep, List.filter_cons_of_pos rfl, closes_open_iff, ih]
      · by_cases hclose : c = '\x7d'
        · subst hclose
          rw [List.filter_cons_of_pos rfl, closes_close_iff]
          cases depth with
          | zero =>
              refine iff_of_false Bool.false_ne_true ?_
              rintro ⟨left, hleft, -⟩
              cases hleft
          | succ depth =>
              have hstep : balancedFrom (depth + 1) ('\x7d' :: cs) = balancedFrom depth cs := rfl
              simp [hstep, ih]
        · have hother : isBrace c = false := by simp [isBrace, hopen, hclose]
          have hnone : [c].all (!isBrace ·) = true := by simp [hother]
          have hstep : balancedFrom depth (c :: cs) = balancedFrom depth cs :=
            balancedFrom_append hnone depth cs
          rw [hstep, List.filter_cons_of_neg (by simp [hother]), ih]

/-- Counting is the grammar. -/
theorem isBalanced_iff_matched (cs : List Char) :
    isBalanced cs = true ↔ Matched (cs.filter isBrace) := by
  rw [isBalanced, balancedFrom_iff_closes, closes_zero_iff]

/-! ## Braces and blanks -/

theorem isBrace_of_isBlank {c : Char} (h : isBlank c = true) : isBrace c = false := by
  by_contra hbrace
  rw [Bool.not_eq_false, isBrace, Bool.or_eq_true, beq_iff_eq, beq_iff_eq] at hbrace
  rcases hbrace with rfl | rfl <;> cases h

theorem filter_isBrace_trim (cs : List Char) :
    (trim cs).filter isBrace = cs.filter isBrace := by
  have hnone {blanks : List Char} (h : ∀ c ∈ blanks, isBlank c = true) :
      blanks.filter isBrace = [] := by
    rw [List.filter_eq_nil_iff]
    exact fun c hc => Bool.eq_false_iff.mp (isBrace_of_isBlank (h c hc))
  obtain ⟨lead, tail, heq, hlead, htail⟩ := Text.exists_append_trim cs
  conv_rhs => rw [heq]
  rw [List.filter_append, List.filter_append, hnone hlead, hnone htail, List.nil_append,
    List.append_nil]

theorem open_mem_trim_iff {cs : List Char} : '\x7b' ∈ trim cs ↔ '\x7b' ∈ cs := by
  have hmem (ds : List Char) : '\x7b' ∈ ds ↔ '\x7b' ∈ ds.filter isBrace := by
    simp [isBrace]
  rw [hmem, filter_isBrace_trim, ← hmem]

/-! ## What stands between the braces -/

/-- The first opening brace of the text stands before its last closing
brace, and not all that is between them is blank. -/
def Encloses (cs : List Char) : Prop :=
  ∃ before inner after, cs = before ++ '\x7b' :: (inner ++ '\x7d' :: after)
    ∧ '\x7b' ∉ before ∧ '\x7d' ∉ after ∧ ∃ c ∈ inner, isBlank c = false

theorem Encloses.surround {cs lead tail : List Char} (h : Encloses cs)
    (hlead : ∀ c ∈ lead, isBlank c = true) (htail : ∀ c ∈ tail, isBlank c = true) :
    Encloses (lead ++ cs ++ tail) := by
  obtain ⟨before, inner, after, rfl, hbefore, hafter, hinner⟩ := h
  refine ⟨lead ++ before, inner, after ++ tail, by simp, ?_, ?_, hinner⟩
  · rw [List.mem_append, not_or]
    exact ⟨fun hmem => absurd (hlead _ hmem) (by decide), hbefore⟩
  · rw [List.mem_append, not_or]
    exact ⟨hafter, fun hmem => absurd (htail _ hmem) (by decide)⟩

/-- A body that is not empty stands between the braces. -/
theorem encloses_of_body {cs : List Char} (hopen : '\x7b' ∈ cs) (h : body cs ≠ []) :
    Encloses cs := by
  obtain ⟨before, rest, rfl, hbefore⟩ := List.eq_append_cons_of_mem hopen
  have hfirst : (before ++ '\x7b' :: rest).dropWhile (· != '\x7b') = '\x7b' :: rest := by
    refine Text.dropWhile_run (fun c hc => ?_) (Text.stopsRun_cons (by simp) rest)
    exact bne_iff_ne.mpr fun heq => hbefore (heq ▸ hc)
  rw [body, hfirst, List.drop_one, List.tail_cons] at h
  cases hlast : Text.splitLast? '\x7d' rest with
  | none => simp [hlast] at h
  | some p =>
      obtain ⟨inner, after⟩ := p
      simp only [hlast] at h
      obtain ⟨rfl, hafter⟩ := Text.eq_append_of_splitLast? hlast
      exact ⟨before, inner, after, rfl, hbefore, hafter, Text.exists_of_trim_ne_nil h⟩

/-! ## Accepted texts -/

theorem matched_of_acceptedAs {h : HeuristicSettings} {cs : List Char} {word : String}
    (haccepted : AcceptedAs h cs word) (hopen : '\x7b' ∈ cs) : Matched (cs.filter isBrace) := by
  rw [← isBalanced_iff_matched]
  cases haccepted with
  | operation _ hshape =>
      simp only [isPlausibleOperation, Bool.and_eq_true] at hshape
      exact hshape.1.1.2
  | fragment _ hbraces => exact hbraces
  | schema _ hshape =>
      -- here the count is asked for only of a text with an opening brace
      simp only [isPlausibleSchema, Bool.and_eq_true] at hshape
      simpa [hopen] using hshape.1.1.2

theorem encloses_of_isPlausibleOperation {h : HeuristicSettings} {cs : List Char}
    (hshape : isPlausibleOperation h cs = true) : Encloses cs := by
  simp only [isPlausibleOperation, hasBraces, Bool.and_eq_true] at hshape
  obtain ⟨⟨⟨⟨⟨hopen, -⟩, -⟩, -⟩, hbody⟩, -⟩ := hshape
  exact encloses_of_body (by simpa using hopen) (by simpa using hbody)

/-- An accepted text that opens with the keyword of an operation was
accepted as an operation. -/
theorem isPlausibleOperation_of_opens {h : HeuristicSettings} {s word : String}
    {spelling : List Char} (hs : isPlausible h s = true) (hword : word ∈ operationKeywords)
    (hopens : Opens s.toList word spelling) :
    isPlausibleOperation h (trim s.toList) = true := by
  obtain ⟨other, hother, ⟨spelling', hopens'⟩, haccepted⟩ := exists_acceptedAs hs
  obtain ⟨rfl, -⟩ := hopens'.unique hopens hother (List.mem_append_left _ hword)
  have hapart : ∀ word ∈ operationKeywords, word ≠ fragmentKeyword ∧ word ∉ schemaKeywords := by
    decide
  cases haccepted with
  | operation _ hshape => exact hshape
  | fragment _ _ => exact absurd rfl (hapart _ hword).1
  | schema hschema _ => exact absurd hschema (hapart _ hword).2

theorem matched_of_isPlausible {h : HeuristicSettings} {s : String}
    (hs : isPlausible h s = true) (hopen : '\x7b' ∈ s.toList) :
    Matched (s.toList.filter isBrace) := by
  obtain ⟨word, -, -, haccepted⟩ := exists_acceptedAs hs
  rw [← filter_isBrace_trim]
  exact matched_of_acceptedAs haccepted (open_mem_trim_iff.mpr hopen)

theorem encloses_of_isPlausible {h : HeuristicSettings} {s word : String} {spelling : List Char}
    (hs : isPlausible h s = true) (hword : word ∈ operationKeywords)
    (hopens : Opens s.toList word spelling) : Encloses s.toList := by
  have hshape := isPlausibleOperation_of_opens hs hword hopens
  obtain ⟨lead, tail, heq, hlead, htail⟩ := Text.exists_append_trim s.toList
  rw [heq]
  exact (encloses_of_isPlausibleOperation hshape).surround hlead htail

/-- **Counting braces is the grammar.** And what is accepted with an
opening brace is matched, whatever the heuristics; an operation has
something between the first and the last of its braces. -/
theorem braces_match :
    (∀ cs, isBalanced cs = true ↔ Matched (cs.filter isBrace))
    ∧ ∀ (h : HeuristicSettings) (s : String), isPlausible h s = true →
      ('\x7b' ∈ s.toList → Matched (s.toList.filter isBrace))
      ∧ ∀ word ∈ operationKeywords, ∀ spelling, Opens s.toList word spelling →
        Encloses s.toList :=
  ⟨isBalanced_iff_matched, fun _ _ hs => ⟨matched_of_isPlausible hs, fun _ hword _ hopens =>
    encloses_of_isPlausible hs hword hopens⟩⟩

/-- A mutation with braces inside its braces and blanks around it, and
a text that closes what it did not open. -/
theorem braces_match_nested :
    let s := "\n  MUTATION AddUser \x7b addUser \x7b id \x7d \x7d "
    isPlausible {} s = true ∧ Matched (s.toList.filter isBrace) ∧ Encloses s.toList
      ∧ ¬ Matched ("\x7d \x7b".toList.filter isBrace) := by
  intro s
  have hs : isPlausible {} s = true := by decide
  have hopens : Opens s.toList "mutation" "MUTATION".toList := ⟨by decide, by decide⟩
  obtain ⟨hmatched, hencloses⟩ := braces_match.2 {} s hs
  refine ⟨hs, hmatched (by decide), hencloses "mutation" (by decide) _ hopens, ?_⟩
  rw [← braces_match.1]
  decide

end Graphql

end ScriptScout
