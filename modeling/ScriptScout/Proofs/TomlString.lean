import Mathlib.Data.List.Basic
import Mathlib.Data.Option.Basic
import ScriptScout.Proofs.Text.Parts
import ScriptScout.Toml.Writer

/-!
# Strings of a settings file

A string reads back whichever of its four forms the writer chooses
(`readString_quote`). Between double quotes every character is read
from what it is escaped as (`escaped_or_plain`). Between single quotes
characters stand for themselves, and what has to be shown is that the
string does not end early: no run of quotes in it is as long as the
closing one (`lead_le_longestQuotes`), and none of them is at its end.
-/

namespace ScriptScout.Toml

/-! ## Escapes -/

theorem numeral?_pair {high low : Char} {a b : Nat} (hhigh : Text.hexValue? high = some a)
    (hlow : Text.hexValue? low = some b) (ha : a < 16) (hb : b < 16) :
    Text.numeral? 16 (Nat.pow 2 32) ['0', '0', high, low] = some (16 * a + b) := by
  have hzero : Text.hexValue? '0' = some 0 := rfl
  have hfirst : a < 4294967296 := by omega
  have hsecond : 16 * a + b < 4294967296 := by omega
  simp [Text.numeral?, hzero, hhigh, hlow, ha, hb, guard, hfirst, hsecond]

/-- A character by its code. -/
theorem readEscape_code {c : Char} (h : c.toNat < 256) (cs : List Char) :
    readEscape ('u' :: '0' :: '0' :: (Text.hexDigit (c.toNat / 16)).toUpper
      :: (Text.hexDigit (c.toNat % 16)).toUpper :: cs) = some (c, cs) := by
  have hhigh := Text.hexValue?_toUpper_hexDigit (c.toNat / 16) (by omega)
  have hlow := Text.hexValue?_toUpper_hexDigit (c.toNat % 16) (by omega)
  have hvalue : 16 * (c.toNat / 16) + c.toNat % 16 = c.toNat := by omega
  have hread := numeral?_pair hhigh hlow (by omega) (by omega)
  rw [hvalue] at hread
  have hvalid : c.toNat.isValidChar := c.valid
  simp [readEscape, hread, hvalid, guard, Char.ofNat_toNat]

/-- A character that is escaped is read from its escape, which is no
folded line. -/
structure Escaped (c : Char) (e : List Char) : Prop where
  escape : escapeChar c = '\\' :: e
  reads : ∀ cs, readEscape (e ++ cs) = some (c, cs)
  unfolded : ∀ cs, afterFold? (e ++ cs) = none

/-- A character that stands for itself between double quotes. -/
structure Plain (c : Char) : Prop where
  escape : escapeChar c = [c]
  not_quote : c ≠ '"'
  not_backslash : c ≠ '\\'
  not_return : c ≠ '\r'
  printable : c ≠ '\n' → isPrintable c = true

theorem escaped_or_plain (c : Char) : (∃ e, Escaped c e) ∨ Plain c := by
  by_cases hletter : c ∈ ['\x08', '\t', '\x0c', '\r', '"', '\\']
  · left
    simp only [List.mem_cons, List.not_mem_nil, or_false] at hletter
    rcases hletter with rfl | rfl | rfl | rfl | rfl | rfl <;>
      exact ⟨_, rfl, fun _ => rfl, fun _ => rfl⟩
  · by_cases hbreak : c = '\n'
    · subst hbreak
      exact .inr ⟨rfl, by decide, by decide, by decide, fun h => absurd rfl h⟩
    · simp only [List.mem_cons, List.not_mem_nil, or_false, not_or] at hletter
      obtain ⟨hback, htab, hfeed, hreturn, hquote, hslash⟩ := hletter
      have hrest : escapeChar c =
          if c.toNat < 0x20 || c.toNat == 0x7F then codeEscape c else [c] := by
        simp only [escapeChar, beq_iff_eq, hback, htab, hbreak, hfeed, hreturn, hquote, hslash,
          if_false]
      by_cases hcontrol : (c.toNat < 0x20 || c.toNat == 0x7F) = true
      · have hcode : c.toNat < 256 := by
          simp only [Bool.or_eq_true, decide_eq_true_eq, beq_iff_eq] at hcontrol
          omega
        exact .inl ⟨_, by rw [hrest, if_pos hcontrol]; rfl, readEscape_code hcode, fun _ => rfl⟩
      · refine .inr ⟨by rw [hrest, if_neg hcontrol], hquote, hslash, hreturn, fun _ => ?_⟩
        simp only [Bool.or_eq_true, decide_eq_true_eq, beq_iff_eq, not_or] at hcontrol
        simp only [isPrintable, Bool.or_eq_true, Bool.and_eq_true, decide_eq_true_eq, bne_iff_ne]
        exact .inr ⟨by omega, hcontrol.2⟩

theorem readBasic_escaped {text : List Char} (hlines : '\n' ∉ text) (rest : List Char) {fuel : Nat}
    (h : text.length < fuel) :
    readBasic fuel (text.flatMap escapeChar ++ '"' :: rest) = some (text, rest) := by
  induction text generalizing fuel with
  | nil =>
      obtain ⟨fuel, rfl⟩ := Nat.exists_eq_succ_of_ne_zero (Nat.ne_of_gt h)
      rfl
  | cons c text ih =>
      obtain ⟨fuel, rfl⟩ := Nat.exists_eq_succ_of_ne_zero (Nat.ne_of_gt (Nat.zero_lt_of_lt h))
      have hmore := ih (fun hmem => hlines (List.mem_cons_of_mem _ hmem)) (Nat.lt_of_succ_lt_succ h)
      have hbreak : c ≠ '\n' := fun heq => hlines (heq ▸ List.mem_cons_self)
      rw [List.flatMap_cons, List.append_assoc]
      rcases escaped_or_plain c with ⟨e, he⟩ | hc
      · rw [he.escape, List.cons_append]
        simp [readBasic, he.reads, hmore]
      · rw [hc.escape, List.singleton_append]
        simp [readBasic, hc.not_quote, hc.not_backslash, hc.printable hbreak, hmore]

theorem escapeChar_ne_nil (c : Char) : escapeChar c ≠ [] := by
  rcases escaped_or_plain c with ⟨e, he⟩ | hc
  · rw [he.escape]
    exact List.cons_ne_nil _ _
  · rw [hc.escape]
    exact List.cons_ne_nil _ _

/-! ## Several lines -/

theorem closing?_three {quote : Char} {rest : List Char} (hrest : rest.head? ≠ some quote) :
    closing? quote (quote :: quote :: quote :: rest) = some ([], rest) := by
  have hrun : rest.takeWhile (· == quote) = [] := by
    cases rest with
    | nil => rfl
    | cons c rest =>
        have hc : (c == quote) = false := beq_false_of_ne fun heq => hrest (congrArg some heq)
        rw [List.takeWhile_cons, hc]
        rfl
  simp [closing?, hrun]

theorem closing?_of_ne {quote c : Char} (hc : c ≠ quote) (cs : List Char) :
    closing? quote (c :: cs) = none := by
  simp [closing?, hc]

theorem afterBreak?_of_ne {c : Char} (hbreak : c ≠ '\n') (hreturn : c ≠ '\r') (cs : List Char) :
    afterBreak? (c :: cs) = none := by
  unfold afterBreak?
  split
  · next heq => exact absurd (List.cons.inj heq).1 hbreak
  · next heq => exact absurd (List.cons.inj heq).1 hreturn
  · rfl

theorem readBasicLines_escaped (text : List Char) {rest : List Char} (hrest : rest.head? ≠ some '"')
    {fuel : Nat} (h : text.length < fuel) :
    readBasicLines fuel (text.flatMap escapeChar ++ '"' :: '"' :: '"' :: rest) =
      some (text, rest) := by
  induction text generalizing fuel with
  | nil =>
      obtain ⟨fuel, rfl⟩ := Nat.exists_eq_succ_of_ne_zero (Nat.ne_of_gt h)
      rw [List.flatMap_nil, List.nil_append, readBasicLines, closing?_three hrest]
  | cons c text ih =>
      obtain ⟨fuel, rfl⟩ := Nat.exists_eq_succ_of_ne_zero (Nat.ne_of_gt (Nat.zero_lt_of_lt h))
      have hmore := ih (Nat.lt_of_succ_lt_succ h)
      rw [List.flatMap_cons, List.append_assoc]
      rcases escaped_or_plain c with ⟨e, he⟩ | hc
      · rw [he.escape, List.cons_append, readBasicLines, closing?_of_ne (by decide)]
        simp [he.unfolded, he.reads, hmore]
      · rw [hc.escape, List.singleton_append, readBasicLines, closing?_of_ne hc.not_quote]
        by_cases hbreak : c = '\n'
        · subst hbreak
          simp [afterBreak?, hmore]
        · simp [hc.not_backslash, afterBreak?_of_ne hbreak hc.not_return, hc.printable hbreak,
            hmore]

/-! ## Literal strings -/

/-- How many apostrophes a text starts with. -/
def lead (cs : List Char) : Nat := (cs.takeWhile (· == '\x27')).length

/-- One more character in the search for the longest run. -/
def countQuote (p : Nat × Nat) (c : Char) : Nat × Nat :=
  if c == '\x27' then (max p.1 (p.2 + 1), p.2 + 1) else (p.1, 0)

theorem longestQuotes_eq (cs : List Char) : longestQuotes cs = (cs.foldl countQuote (0, 0)).1 := rfl

theorem countQuote_le (p : Nat × Nat) (c : Char) :
    (countQuote p c).2 ≤ (countQuote p c).1 ∧ p.1 ≤ (countQuote p c).1 := by
  unfold countQuote
  split
  · exact ⟨Nat.le_max_right .., Nat.le_max_left ..⟩
  · exact ⟨Nat.zero_le _, Nat.le_refl _⟩

/-- The longest run is no shorter than any run that is met on the way,
together with what goes on with it. -/
theorem foldl_countQuote {p : Nat × Nat} (h : p.2 ≤ p.1) (cs : List Char) :
    p.1 ≤ (cs.foldl countQuote p).1 ∧ p.2 + lead cs ≤ (cs.foldl countQuote p).1 := by
  induction cs generalizing p with
  | nil => exact ⟨Nat.le_refl _, h⟩
  | cons c cs ih =>
      obtain ⟨hnext, hgrow⟩ := countQuote_le p c
      obtain ⟨hbest, hrun⟩ := ih hnext
      rw [List.foldl_cons]
      refine ⟨Nat.le_trans hgrow hbest, ?_⟩
      cases hc : c == '\x27' with
      | true =>
          have hlead : lead (c :: cs) = lead cs + 1 := by
            rw [lead, List.takeWhile_cons, hc]
            rfl
          have hrun' : (countQuote p c).2 = p.2 + 1 := by rw [countQuote, hc]; rfl
          omega
      | false =>
          have hlead : lead (c :: cs) = 0 := by
            rw [lead, List.takeWhile_cons, hc]
            rfl
          omega

theorem lead_le_longestQuotes {suffix cs : List Char} (h : suffix <:+ cs) :
    lead suffix ≤ longestQuotes cs := by
  obtain ⟨before, rfl⟩ := h
  have hbefore : ∀ (xs : List Char) (p : Nat × Nat), p.2 ≤ p.1 →
      (xs.foldl countQuote p).2 ≤ (xs.foldl countQuote p).1 := by
    intro xs
    induction xs with
    | nil => exact fun p h => h
    | cons x xs ih => exact fun p _ => ih _ (countQuote_le p x).1
  have hrun := (foldl_countQuote (hbefore before (0, 0) (Nat.le_refl _)) suffix).2
  rw [longestQuotes_eq, List.foldl_append]
  omega

/-- May the character stand between single quotes? -/
def isLiteral (c : Char) : Bool :=
  c == '\t' || c == '\n' || (0x20 ≤ c.toNat && c.toNat != 0x7F)

theorem isPrintable_of_isLiteral {c : Char} (h : isLiteral c = true) (hbreak : c ≠ '\n') :
    isPrintable c = true := by
  simpa [isLiteral, isPrintable, hbreak] using h

theorem ne_return_of_isLiteral {c : Char} (h : isLiteral c = true) : c ≠ '\r' := by
  rintro rfl
  cases h

/-- A text that does not end in an apostrophe does not go on with a
run of them. -/
theorem closing?_of_lead {text : List Char} (htext : text ≠ []) (hlead : lead text < 3)
    (hlast : text.getLast? ≠ some '\x27') (more : List Char) :
    closing? '\x27' (text ++ more) = none := by
  have hshort : (text.takeWhile (· == '\x27')).length ≠ text.length := by
    intro hall
    have hsame : text.takeWhile (· == '\x27') = text :=
      (List.takeWhile_prefix _).eq_of_length hall
    have hquotes : ∀ c ∈ text, c = '\x27' := by
      intro c hc
      rw [← hsame] at hc
      exact beq_iff_eq.mp (List.all_eq_true.mp List.all_takeWhile c hc)
    exact hlast (by rw [List.getLast?_eq_some_getLast htext, hquotes _ (List.getLast_mem htext)])
  rw [closing?, List.takeWhile_append, if_neg hshort]
  exact if_pos hlead

theorem readLiteralLines_text {whole text rest : List Char} (hsuffix : text <:+ whole)
    (hwhole : longestQuotes whole < 3) (hlast : whole.getLast? ≠ some '\x27')
    (hchars : ∀ c ∈ text, isLiteral c = true) (hrest : rest.head? ≠ some '\x27')
    {fuel : Nat} (h : text.length < fuel) :
    readLiteralLines fuel (text ++ '\x27' :: '\x27' :: '\x27' :: rest) = some (text, rest) := by
  induction text generalizing fuel with
  | nil =>
      obtain ⟨fuel, rfl⟩ := Nat.exists_eq_succ_of_ne_zero (Nat.ne_of_gt h)
      rw [List.nil_append, readLiteralLines, closing?_three hrest]
  | cons c text ih =>
      obtain ⟨fuel, rfl⟩ := Nat.exists_eq_succ_of_ne_zero (Nat.ne_of_gt (Nat.zero_lt_of_lt h))
      have hmore := ih ((List.suffix_cons c text).trans hsuffix)
        (fun d hd => hchars d (List.mem_cons_of_mem _ hd)) (Nat.lt_of_succ_lt_succ h)
      have hopen : closing? '\x27' (c :: text ++ '\x27' :: '\x27' :: '\x27' :: rest) = none := by
        refine closing?_of_lead (List.cons_ne_nil _ _)
          (Nat.lt_of_le_of_lt (lead_le_longestQuotes hsuffix) hwhole) (fun heq => hlast ?_) _
        obtain ⟨before, rfl⟩ := hsuffix
        rw [List.getLast?_append, heq]
        rfl
      have hc := hchars c List.mem_cons_self
      rw [List.cons_append] at hopen ⊢
      rw [readLiteralLines, hopen]
      by_cases hbreak : c = '\n'
      · subst hbreak
        simp [afterBreak?, hmore]
      · simp [afterBreak?_of_ne hbreak (ne_return_of_isLiteral hc),
          isPrintable_of_isLiteral hc hbreak, hmore]

theorem readLiteral_text {text : List Char} (hchars : ∀ c ∈ text, isLiteral c = true)
    (hlines : '\n' ∉ text) (hquotes : '\x27' ∉ text) (rest : List Char) :
    readLiteral (text ++ '\x27' :: rest) = some (text, rest) := by
  have hall : ∀ c ∈ text, (isPrintable c && c != '\x27') = true := by
    intro c hc
    rw [Bool.and_eq_true, bne_iff_ne]
    exact ⟨isPrintable_of_isLiteral (hchars c hc) fun heq => hlines (heq ▸ hc),
      fun heq => hquotes (heq ▸ hc)⟩
  have htext : (text ++ '\x27' :: rest).takeWhile (fun c => isPrintable c && c != '\x27') =
      text := by
    rw [List.takeWhile_append_of_pos hall]
    simp
  simp only [readLiteral, htext, List.drop_left]

/-! ## All forms -/

theorem prefersLiteral_iff {cs : List Char} : prefersLiteral cs = true ↔
    (∃ c ∈ cs, c = '"' ∨ c = '\\') ∧ (∀ c ∈ cs, isLiteral c = true) ∧ longestQuotes cs < 3
      ∧ cs.getLast? ≠ some '\x27' := by
  simp only [prefersLiteral, Bool.and_eq_true, List.any_eq_true, Bool.or_eq_true, beq_iff_eq,
    List.all_eq_true, decide_eq_true_eq, bne_iff_ne, isLiteral, and_assoc]

/-! Which form a string has is settled by its first three characters. -/

theorem readString_basicLines (cs : List Char) : readString ('"' :: '"' :: '"' :: cs) =
    (readBasicLines (cs.length + 4) (skipBreak cs)).map fun p => (String.ofList p.1, p.2) := by
  rw [Option.map_eq_bind]
  rfl

theorem readString_literalLines (cs : List Char) :
    readString ('\x27' :: '\x27' :: '\x27' :: cs) =
      (readLiteralLines (cs.length + 4) (skipBreak cs)).map fun p => (String.ofList p.1, p.2) := by
  rw [Option.map_eq_bind]
  rfl

theorem readString_basicLine {cs : List Char} (h : ∀ more, cs ≠ '"' :: '"' :: more) :
    readString ('"' :: cs) =
      (readBasic (cs.length + 2) cs).map fun p => (String.ofList p.1, p.2) := by
  rw [Option.map_eq_bind, readString]
  · rfl
  · exact fun more heq => h more heq

theorem readString_literalLine {cs : List Char} (h : ∀ more, cs ≠ '\x27' :: '\x27' :: more) :
    readString ('\x27' :: cs) = (readLiteral cs).map fun p => (String.ofList p.1, p.2) := by
  rw [Option.map_eq_bind, readString]
  · rfl
  · exact fun more heq => h more heq

section

variable {s : String} {rest : List Char}

/-! Between single quotes. -/

theorem readString_literal_lines (hs : prefersLiteral s.toList = true)
    (hrest : rest.head? ≠ some '\x27') (hlines : s.toList.contains '\n' = true) :
    readString ((quote s).toList ++ rest) = some (s, rest) := by
  obtain ⟨-, hchars, hquotes, hlast⟩ := prefersLiteral_iff.mp hs
  have htext : (quote s).toList ++ rest = '\x27' :: '\x27' :: '\x27' :: '\n' ::
      (s.toList ++ '\x27' :: '\x27' :: '\x27' :: rest) := by
    simp only [quote, hs, hlines, if_true, String.toList_append, List.append_assoc]
    rfl
  rw [htext, readString_literalLines, skipBreak, afterBreak?, Option.getD_some,
    readLiteralLines_text (List.suffix_refl _) hquotes hlast hchars hrest
      (by simp only [List.length_cons, List.length_append]; omega),
    Option.map_some, String.ofList_toList]

/-- A text with an apostrophe stands between three of them. No break is
written behind the first three, so none may be taken for one. -/
theorem readString_literal_apostrophe (hs : prefersLiteral s.toList = true)
    (hrest : rest.head? ≠ some '\x27') (hlines : s.toList.contains '\n' = false)
    (hquote : s.toList.contains '\x27' = true) :
    readString ((quote s).toList ++ rest) = some (s, rest) := by
  obtain ⟨⟨d, hd, -⟩, hchars, hquotes, hlast⟩ := prefersLiteral_iff.mp hs
  have hbreak : '\n' ∉ s.toList := by simpa using hlines
  have htext : (quote s).toList ++ rest = '\x27' :: '\x27' :: '\x27' ::
      (s.toList ++ '\x27' :: '\x27' :: '\x27' :: rest) := by
    simp only [quote, hs, hlines, hquote, if_true, Bool.false_eq_true, if_false,
      String.toList_append, List.append_assoc]
    rfl
  have hskip : skipBreak (s.toList ++ '\x27' :: '\x27' :: '\x27' :: rest) =
      s.toList ++ '\x27' :: '\x27' :: '\x27' :: rest := by
    cases hcs : s.toList with
    | nil => rw [hcs] at hd; cases hd
    | cons c cs =>
        rw [hcs] at hbreak hchars
        rw [skipBreak, List.cons_append, afterBreak?_of_ne
          (fun heq => hbreak (heq ▸ List.mem_cons_self))
          (ne_return_of_isLiteral (hchars c List.mem_cons_self)), Option.getD_none]
  rw [htext, readString_literalLines, hskip,
    readLiteralLines_text (List.suffix_refl _) hquotes hlast hchars hrest
      (by simp only [List.length_cons, List.length_append]; omega),
    Option.map_some, String.ofList_toList]

theorem readString_literal_line (hs : prefersLiteral s.toList = true)
    (hlines : s.toList.contains '\n' = false) (hquote : s.toList.contains '\x27' = false) :
    readString ((quote s).toList ++ rest) = some (s, rest) := by
  obtain ⟨⟨d, hd, -⟩, hchars, -, -⟩ := prefersLiteral_iff.mp hs
  have hbreak : '\n' ∉ s.toList := by simpa using hlines
  have hsingle : '\x27' ∉ s.toList := by simpa using hquote
  have htext : (quote s).toList ++ rest = '\x27' :: (s.toList ++ '\x27' :: rest) := by
    simp only [quote, hs, hlines, hquote, if_true, Bool.false_eq_true, if_false,
      String.toList_append, List.append_assoc]
    rfl
  rw [htext, readString_literalLine, readLiteral_text hchars hbreak hsingle, Option.map_some,
    String.ofList_toList]
  intro more heq
  cases hcs : s.toList with
  | nil => rw [hcs] at hd; cases hd
  | cons c cs =>
      rw [hcs] at heq hsingle
      exact hsingle ((List.cons.inj heq).1 ▸ List.mem_cons_self)

/-! Between double quotes. -/

theorem readString_basic_lines (hs : prefersLiteral s.toList = false)
    (hrest : rest.head? ≠ some '"') (hlines : s.toList.contains '\n' = true) :
    readString ((quote s).toList ++ rest) = some (s, rest) := by
  have hlength := length_le_flatMap escapeChar_ne_nil s.toList
  have htext : (quote s).toList ++ rest = '"' :: '"' :: '"' :: '\n' ::
      (s.toList.flatMap escapeChar ++ '"' :: '"' :: '"' :: rest) := by
    simp only [quote, hs, hlines, if_true, Bool.false_eq_true, if_false, String.toList_append,
      String.toList_ofList, List.append_assoc]
    rfl
  rw [htext, readString_basicLines, skipBreak, afterBreak?, Option.getD_some,
    readBasicLines_escaped _ hrest (by simp only [List.length_cons, List.length_append]; omega),
    Option.map_some, String.ofList_toList]

theorem readString_basic_line (hs : prefersLiteral s.toList = false)
    (hrest : rest.head? ≠ some '"') (hlines : s.toList.contains '\n' = false) :
    readString ((quote s).toList ++ rest) = some (s, rest) := by
  have hlength := length_le_flatMap escapeChar_ne_nil s.toList
  have hbreak : '\n' ∉ s.toList := by simpa using hlines
  have htext : (quote s).toList ++ rest =
      '"' :: (s.toList.flatMap escapeChar ++ '"' :: rest) := by
    simp only [quote, hs, hlines, Bool.false_eq_true, if_false, String.toList_append,
      String.toList_ofList, List.append_assoc]
    rfl
  rw [htext, readString_basicLine, readBasic_escaped hbreak _
    (by simp only [List.length_cons, List.length_append]; omega), Option.map_some,
    String.ofList_toList]
  -- an empty string is no start of three quotes, and no character is escaped as a quote
  intro more heq
  cases hcs : s.toList with
  | nil =>
      rw [hcs] at heq
      obtain rfl := (List.cons.inj heq).2
      exact hrest rfl
  | cons c cs =>
      rw [hcs, List.flatMap_cons] at heq
      rcases escaped_or_plain c with ⟨e, he⟩ | hc
      · rw [he.escape] at heq
        exact absurd (List.cons.inj heq).1 (by decide)
      · rw [hc.escape] at heq
        exact hc.not_quote (List.cons.inj heq).1

end

/-- A string reads back in whichever form it is written. -/
theorem readString_quote (s : String) {rest : List Char}
    (hrest : ∀ c ∈ rest.head?, c ≠ '"' ∧ c ≠ '\x27') :
    readString ((quote s).toList ++ rest) = some (s, rest) := by
  have hdouble : rest.head? ≠ some '"' := fun heq => (hrest _ heq).1 rfl
  have hsingle : rest.head? ≠ some '\x27' := fun heq => (hrest _ heq).2 rfl
  cases hs : prefersLiteral s.toList with
  | true =>
      cases hlines : s.toList.contains '\n' with
      | true => exact readString_literal_lines hs hsingle hlines
      | false =>
          cases hquote : s.toList.contains '\x27' with
          | true => exact readString_literal_apostrophe hs hsingle hlines hquote
          | false => exact readString_literal_line hs hlines hquote
  | false =>
      cases hlines : s.toList.contains '\n' with
      | true => exact readString_basic_lines hs hdouble hlines
      | false => exact readString_basic_line hs hdouble hlines

end ScriptScout.Toml
