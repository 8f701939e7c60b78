import Mathlib
import ScriptScout.Decimal.Reader
import ScriptScout.Proofs.Text.Parts
import ScriptScout.Toml.Reader
import ScriptScout.Toml.Writer

/-!
# Numbers of a settings file

A natural number of 63 bits reads back (`readScalar_nat`), and so does
a double. Those that are not finite are written as words, and there is
only one double for each word. A finite double is written in digits
with a point between them (`exists_pointed`); the reader of settings
files makes of such a text what the reader of decimals makes of it
(`readFloat_pointed`, `read?_pointed`), so that it is enough if the
latter gives the double back (`readScalar_real`).

Dates and times start with digits too. What tells a number apart from
them is that neither of their marks follows its digits
(`readMoment_digits`).
-/

namespace ScriptScout.Decimal

open Float.Model

/-! ## Doubles and their bits -/

/-- There is one double that is no number. -/
theorem eq_of_isNaN {x : Float} (h : x.isNaN = true) : x = Float.ofBits 0x7ff8000000000000 := by
  rw [Float.isNaN_eq_decide_eq_nan, decide_eq_true_eq] at h
  exact h

/-- There are two infinite doubles, which differ in the sign. -/
theorem toBits_of_isInf {x : Float} (h : x.isInf = true) :
    x.toBits = if isNegative x then 0xfff0000000000000 else 0x7ff0000000000000 := by
  obtain ⟨⟨bits, hvalid⟩⟩ := x
  have hunpack : (UnpackedFloat.unpack Format.binary64 bits.toBitVec).isInf = true := h
  have hparts : @UnpackedFloat.unpackExponent Format.binary64 bits.toBitVec = -1#11
      ∧ @UnpackedFloat.unpackMantissa Format.binary64 bits.toBitVec = 0#52 := by
    simp only [UnpackedFloat.unpack] at hunpack
    split at hunpack
    · next hexponent =>
        split at hunpack
        · next hmantissa => exact ⟨hexponent, hmantissa⟩
        · cases hunpack
    · split at hunpack
      · split at hunpack <;> cases hunpack
      · cases hunpack
  have hexponent : bits.toNat / 2 ^ 52 % 2 ^ 11 = 2047 := by
    simpa [UnpackedFloat.unpackExponent, Nat.shiftRight_eq_div_pow] using
      congrArg BitVec.toNat hparts.1
  have hmantissa : bits.toNat % 2 ^ 52 = 0 := by
    simpa [UnpackedFloat.unpackMantissa] using congrArg BitVec.toNat hparts.2
  have hsize := bits.toNat_lt
  have hbits : bits.toNat = 0xfff0000000000000 ∨ bits.toNat = 0x7ff0000000000000 := by omega
  show bits = if bits >>> 63 == 1 then 0xfff0000000000000 else 0x7ff0000000000000
  rcases hbits with hbits | hbits
  · obtain rfl : bits = 0xfff0000000000000 := UInt64.toNat_inj.mp hbits
    rfl
  · obtain rfl : bits = 0x7ff0000000000000 := UInt64.toNat_inj.mp hbits
    rfl

theorem isFinite_iff {x : Float} : x.isFinite = true ↔ x.isNaN = false ∧ x.isInf = false := by
  show x.toModel.unpack.isFinite = true ↔
    x.toModel.unpack.isNaN = false ∧ x.toModel.unpack.isInf = false
  cases x.toModel.unpack <;>
    simp [UnpackedFloat.isFinite, UnpackedFloat.isNaN, UnpackedFloat.isInf]

theorem beq_infinity_of_isFinite {x : Float} (h : x.isFinite = true) : (x == 1 / 0) = false := by
  have hinfinity : (1 / 0 : Float).toModel.unpack = .infinity .positive := rfl
  have hbeq : (x == 1 / 0) = x.toModel.unpack.beq (1 / 0 : Float).toModel.unpack := rfl
  have hfinite : x.toModel.unpack.isFinite = true := h
  rw [hbeq, hinfinity]
  cases hx : x.toModel.unpack with
  | infinity sign => rw [hx] at hfinite; cases hfinite
  | notANumber => rw [hx] at hfinite; cases hfinite
  | zero sign => rfl
  | finite sign mantissa exponent hpos => rfl

/-! ## Digits with a point -/

/-- Digits that stand before and behind a point. None is missing on
either side, and no zero stands in front but a single one. -/
structure Pointed (whole places : List Char) : Prop where
  whole_digits : ∀ c ∈ whole, c.isDigit = true
  whole_ne : whole ≠ []
  whole_lead : whole.head? = some '0' → whole = ['0']
  places_digits : ∀ c ∈ places, c.isDigit = true
  places_ne : places ≠ []

theorem isDigit_zero : ∀ c ∈ ['0'], c.isDigit = true := List.forall_mem_singleton.mpr rfl

theorem pointed_positional {digits : List Char} (hdigits : ∀ c ∈ digits, c.isDigit = true)
    (hne : digits ≠ []) (hlead : digits.head? ≠ some '0') (point : Int) :
    ∃ whole places, Pointed whole places
      ∧ (positional digits point ".0").toList = whole ++ '.' :: places := by
  have hzeros (n : Nat) : ∀ c ∈ List.replicate n '0', c.isDigit = true :=
    fun c hc => List.eq_of_mem_replicate hc ▸ rfl
  have happend {xs ys : List Char} (hxs : ∀ c ∈ xs, c.isDigit = true)
      (hys : ∀ c ∈ ys, c.isDigit = true) : ∀ c ∈ xs ++ ys, c.isDigit = true :=
    fun c hc => (List.mem_append.mp hc).elim (hxs c) (hys c)
  unfold positional
  split
  · next n =>
      split
      · -- a whole number: zeros fill the places up to the point
        refine ⟨digits ++ List.replicate (n + 1 - digits.length) '0', ['0'],
          ⟨happend hdigits (hzeros _), ?_, ?_, isDigit_zero, List.cons_ne_nil _ _⟩, ?_⟩
        · simp [hne]
        · rw [List.head?_append_of_ne_nil _ hne]
          exact fun h => absurd h hlead
        · simp [zeros]
      · next hlong =>
          refine ⟨digits.take (n + 1), digits.drop (n + 1),
            ⟨fun c hc => hdigits c (List.mem_of_mem_take hc), ?_, ?_,
              fun c hc => hdigits c (List.mem_of_mem_drop hc), ?_⟩, ?_⟩
          · simp [hne]
          · rw [List.head?_take, if_neg (Nat.succ_ne_zero n)]
            exact fun h => absurd h hlead
          · rw [ne_eq, List.drop_eq_nil_iff]
            exact hlong
          · simp
  · exact ⟨['0'], digits, ⟨isDigit_zero, List.cons_ne_nil _ _, fun _ => rfl, hdigits, hne⟩,
      by simp⟩
  · next n =>
      exact ⟨['0'], List.replicate (n + 1) '0' ++ digits,
        ⟨isDigit_zero, List.cons_ne_nil _ _, fun _ => rfl, happend (hzeros _) hdigits,
          by simp [hne]⟩,
        by simp [zeros]⟩

/-- A text of digits and a point is no word. -/
theorem magnitude?_pointed {whole places : List Char} (h : Pointed whole places) :
    magnitude? (whole ++ '.' :: places) =
      some (nearest (whole ++ places) (0 - (places.length : Int))) := by
  obtain ⟨c, ds, rfl⟩ := List.exists_cons_of_ne_nil h.whole_ne
  have hdigit : c.isDigit = true := h.whole_digits c List.mem_cons_self
  have hword : magnitude? (c :: ds ++ '.' :: places) = unsigned? (c :: ds ++ '.' :: places) := by
    have hlower : c.toLower ≠ 'i' ∧ c.toLower ≠ 'n' := by
      have hlow : c.toLower = c := by
        refine Char.toLower_eq_of_not_isUpper fun hupper => ?_
        simp only [Char.isDigit, Char.isUpper, Bool.and_eq_true, decide_eq_true_eq] at hdigit hupper
        exact absurd (UInt32.le_trans hupper.1 hdigit.2) (by decide)
      rw [hlow]
      constructor <;> rintro rfl <;> cases hdigit
    have hfirst {w : String} {d : Char} {more : List Char} (hw : w.toList = d :: more)
        (hd : c.toLower ≠ d) :
        String.ofList ((c :: ds ++ '.' :: places).map Char.toLower) ≠ w := by
      rintro rfl
      rw [String.toList_ofList, List.cons_append, List.map_cons] at hw
      exact hd (List.cons.inj hw).1
    unfold magnitude?
    split
    · next heq => exact absurd heq (hfirst rfl hlower.1)
    · next heq => exact absurd heq (hfirst rfl hlower.1)
    · next heq => exact absurd heq (hfirst rfl hlower.2)
    · rfl
  have htake : (c :: ds ++ '.' :: places).takeWhile Char.isDigit = c :: ds := by
    rw [List.takeWhile_append_of_pos h.whole_digits]
    simp
  have hdrop : (c :: ds ++ '.' :: places).dropWhile Char.isDigit = '.' :: places := by
    rw [List.dropWhile_append_of_pos h.whole_digits]
    rfl
  have hplaces : places.takeWhile Char.isDigit = places ∧ places.dropWhile Char.isDigit = [] :=
    ⟨by simpa using @List.takeWhile_append_of_pos _ _ _ [] h.places_digits,
      by simpa using @List.dropWhile_append_of_pos _ _ _ [] h.places_digits⟩
  rw [hword, unsigned?]
  simp only [htake, hdrop, hplaces]
  rfl

/-- What is written in digits is read from them. -/
theorem read?_pointed {whole places : List Char} (h : Pointed whole places) {text : String}
    {negative : Bool}
    (htext : text.toList = (if negative then ['-'] else []) ++ (whole ++ '.' :: places)) :
    read? text =
      let size := nearest (whole ++ places) (0 - (places.length : Int))
      some (if negative then -size else size) := by
  rw [read?, htext]
  cases negative with
  | true =>
      simp only [if_true, List.singleton_append, magnitude?_pointed h]
      rfl
  | false =>
      have hsize := magnitude?_pointed h
      obtain ⟨c, ds, rfl⟩ := List.exists_cons_of_ne_nil h.whole_ne
      have hdigit : c.isDigit = true := h.whole_digits c List.mem_cons_self
      simp only [Bool.false_eq_true, if_false, List.nil_append, List.cons_append] at hsize ⊢
      split
      · next heq => exact absurd ((List.cons.inj heq).1 ▸ hdigit) (by decide)
      · next heq => exact absurd ((List.cons.inj heq).1 ▸ hdigit) (by decide)
      · exact hsize

end ScriptScout.Decimal

namespace ScriptScout.Toml

open Decimal (Pointed)

theorem exists_pointed {x : Float} (h : x.isFinite = true) : ∃ whole places,
    Pointed whole places ∧ (realText x).toList =
      (if Decimal.isNegative x then ['-'] else []) ++ (whole ++ '.' :: places) := by
  obtain ⟨hnan, hinf⟩ := Decimal.isFinite_iff.mp h
  have hsign : (if Decimal.isNegative x then "-" else "").toList =
      if Decimal.isNegative x then ['-'] else [] := by
    split <;> rfl
  have htext : realText x = numberLayout.write x := by
    rw [realText, hnan]
    rfl
  rw [htext, Decimal.Layout.write, hnan, hinf]
  simp only [Bool.false_eq_true, if_false]
  split
  · refine ⟨['0'], ['0'], ⟨Decimal.isDigit_zero, List.cons_ne_nil _ _, fun _ => rfl,
      Decimal.isDigit_zero, List.cons_ne_nil _ _⟩, ?_⟩
    rw [String.append_assoc, String.toList_append, hsign]
    rfl
  · next hdigits =>
      obtain ⟨whole, places, hpointed, hpositional⟩ :=
        Decimal.pointed_positional (Decimal.isDigit_toDigits _) Nat.toDigits_ne_nil
          (Decimal.head?_toDigits_ne_zero hdigits)
          ((Nat.toDigits 10 (Decimal.shortest x).digits).length + (Decimal.shortest x).exponent)
      refine ⟨whole, places, hpointed, ?_⟩
      rw [String.toList_append, hsign, ← hpositional]
      rfl

/-! ## Readers of digits -/

/-- What may follow a value: the end of its line, a comma or the end of
a list. -/
def Ends (rest : List Char) : Prop := ∀ c ∈ rest.head?, c = '\n' ∨ c = ',' ∨ c = ']'

/-- What follows neither goes on with the digits before it nor makes
them part of a date or a time. -/
def Breaks (rest : List Char) : Prop :=
  ∀ c ∈ rest.head?, c.isDigit = false ∧ c ≠ '_' ∧ c ≠ '-' ∧ c ≠ ':'

theorem Ends.breaks {rest : List Char} (h : Ends rest) : Breaks rest := by
  intro c hc
  rcases h c hc with rfl | rfl | rfl <;> decide

theorem breaks_point (cs : List Char) : Breaks ('.' :: cs) := by
  intro c hc
  obtain rfl := Option.some.inj hc
  decide

theorem moreDigits_digits {ds rest : List Char} (hds : ∀ c ∈ ds, c.isDigit = true)
    (hrest : Breaks rest) : moreDigits Char.isDigit (ds ++ rest) = (ds, rest) := by
  induction ds with
  | nil =>
      cases rest with
      | nil => rfl
      | cons c rest =>
          obtain ⟨hdigit, hunder, -⟩ := hrest c rfl
          rw [List.nil_append, moreDigits, hdigit]
          · rfl
          · exact fun _ _ heq _ => hunder heq
  | cons d ds ih =>
      have hd := hds d List.mem_cons_self
      rw [List.cons_append, moreDigits, hd, ih fun c hc => hds c (List.mem_cons_of_mem _ hc)]
      · rfl
      · rintro _ _ rfl _
        cases hd

theorem readDigits_digits {ds rest : List Char} (hds : ∀ c ∈ ds, c.isDigit = true)
    (hne : ds ≠ []) (hrest : Breaks rest) :
    readDigits Char.isDigit (ds ++ rest) = some (ds, rest) := by
  obtain ⟨d, ds, rfl⟩ := List.exists_cons_of_ne_nil hne
  have hmore := moreDigits_digits (fun c hc => hds c (List.mem_cons_of_mem _ hc)) hrest
  rw [List.cons_append, readDigits, hds d List.mem_cons_self, hmore]
  rfl

theorem readWhole_digits {ds rest : List Char} (hds : ∀ c ∈ ds, c.isDigit = true)
    (hne : ds ≠ []) (hlead : ds.head? = some '0' → ds = ['0']) (hrest : Breaks rest) :
    readWhole (ds ++ rest) = some (ds, rest) := by
  by_cases hzero : ds.head? = some '0'
  · rw [hlead hzero]
    rfl
  · have hread := readDigits_digits hds hne hrest
    obtain ⟨d, ds, rfl⟩ := List.exists_cons_of_ne_nil hne
    rw [List.cons_append, readWhole]
    · exact hread
    · exact fun _ heq => hzero (congrArg List.head? heq)

theorem readSign_digits {ds : List Char} (hds : ∀ c ∈ ds, c.isDigit = true) (hne : ds ≠ [])
    (rest : List Char) : readSign (ds ++ rest) = (false, ds ++ rest) := by
  obtain ⟨d, ds, rfl⟩ := List.exists_cons_of_ne_nil hne
  have hd := hds d List.mem_cons_self
  rw [List.cons_append, readSign]
  · rintro _ heq
    cases heq
    cases hd
  · rintro _ heq
    cases heq
    cases hd

theorem readExponent_of_ends {rest : List Char} (h : Ends rest) : readExponent rest = none := by
  cases rest with
  | nil => rfl
  | cons c rest => rcases h c rfl with rfl | rfl | rfl <;> rfl

theorem readFraction_of_ends {rest : List Char} (h : Ends rest) : readFraction rest = none := by
  have hexponent := readExponent_of_ends h
  unfold readFraction
  split
  · rcases h '.' rfl with heq | heq | heq <;> cases heq
  · rw [hexponent]
    rfl

theorem readFraction_point {places rest : List Char} (hds : ∀ c ∈ places, c.isDigit = true)
    (hne : places ≠ []) (h : Ends rest) :
    readFraction ('.' :: (places ++ rest)) = some ((places, []), rest) := by
  simp [readFraction, readDigits_digits hds hne h.breaks, readExponent_of_ends h]

/-! ## Dates and times -/

theorem readFixed_of_not_digit {c : Char} (hc : c.isDigit = false) (size : Nat) (cs : List Char) :
    readFixed (size + 1) (c :: cs) = none := by
  simp [readFixed, hc]

/-- After a number of fixed size comes another digit or what follows
the digits, and neither is a mark. -/
theorem afterMark?_of_readFixed {ds rest : List Char} {size n : Nat} {more : List Char}
    {mark : Char} (hds : ∀ c ∈ ds, c.isDigit = true) (hmark : mark.isDigit = false)
    (hrest : ∀ c ∈ rest.head?, c.isDigit = false ∧ c ≠ mark)
    (h : readFixed size (ds ++ rest) = some (n, more)) : afterMark? mark more = none := by
  simp only [readFixed] at h
  split at h
  · next hfixed =>
      rw [Bool.and_eq_true, beq_iff_eq, List.all_eq_true] at hfixed
      obtain ⟨hlength, hall⟩ := hfixed
      obtain rfl := (Prod.mk.inj (Option.some.inj h)).2
      -- the digits that are read are among those of `ds`
      have hsize : size ≤ ds.length := by
        by_contra hlong
        cases rest with
        | nil =>
            rw [List.append_nil, List.length_take] at hlength
            omega
        | cons c rest =>
            have hmem : c ∈ (ds ++ c :: rest).take size := by
              rw [List.mem_take_iff_getElem]
              refine ⟨ds.length, ?_, ?_⟩
              · simp only [List.length_append, List.length_cons]
                omega
              · simp
            have hdigit := hall c hmem
            rw [(hrest c rfl).1] at hdigit
            cases hdigit
      rw [List.drop_append_of_le_length hsize]
      cases hdrop : ds.drop size with
      | nil =>
          cases rest with
          | nil => rfl
          | cons c rest =>
              have hne := (hrest c rfl).2
              simp [afterMark?, hne]
      | cons d more =>
          have hd := hds d (List.mem_of_mem_drop (hdrop ▸ List.mem_cons_self))
          have hne : d ≠ mark := by
            rintro rfl
            rw [hd] at hmark
            cases hmark
          simp [afterMark?, hne]
  · cases h

theorem readMoment_eq_none {cs : List Char} (hdate : afterDate? cs = none)
    (htime : afterTime? cs = none) : readMoment cs = none := by
  simp only [readMoment, hdate, htime]
  rfl

theorem readMoment_digits {ds rest : List Char} (hds : ∀ c ∈ ds, c.isDigit = true)
    (hrest : Breaks rest) : readMoment (ds ++ rest) = none := by
  refine readMoment_eq_none ?_ ?_
  · unfold afterDate?
    cases hyear : readFixed 4 (ds ++ rest) with
    | none => rfl
    | some p =>
        have hmark : afterMark? '-' p.2 = none := afterMark?_of_readFixed hds (by decide)
          (fun c hc => ⟨(hrest c hc).1, (hrest c hc).2.2.1⟩) hyear
        simp [hmark]
  · unfold afterTime?
    cases hhour : readFixed 2 (ds ++ rest) with
    | none => rfl
    | some p =>
        have hmark : afterMark? ':' p.2 = none := afterMark?_of_readFixed hds (by decide)
          (fun c hc => ⟨(hrest c hc).1, (hrest c hc).2.2.2⟩) hhour
        simp [hmark]

theorem readMoment_minus (cs : List Char) : readMoment ('-' :: cs) = none := by
  have hfixed (size : Nat) : readFixed (size + 1) ('-' :: cs) = none :=
    readFixed_of_not_digit (by decide) size cs
  refine readMoment_eq_none ?_ ?_
  · rw [afterDate?, hfixed 3]
    rfl
  · rw [afterTime?, hfixed 1]
    rfl

/-! ## Numbers as values -/

theorem readScalar_number {c : Char} (h : c ∉ ['t', 'f', '"', '\x27']) (cs : List Char) :
    readScalar (c :: cs) =
      (readMoment (c :: cs)).or ((readFloat (c :: cs)).or
        ((readSpecial (c :: cs)).or (readInteger (c :: cs)))) := by
  simp only [List.mem_cons, List.not_mem_nil, or_false, not_or] at h
  rw [readScalar]
  · exact fun _ heq => h.1 (List.cons.inj heq).1
  · exact fun _ heq => h.2.1 (List.cons.inj heq).1
  · exact fun _ heq => h.2.2.1 (List.cons.inj heq).1
  · exact fun _ heq => h.2.2.2 (List.cons.inj heq).1

theorem readFloat_pointed {whole places rest : List Char} (h : Pointed whole places)
    (negative : Bool) (hrest : Ends rest) :
    readFloat ((if negative then ['-'] else []) ++ (whole ++ '.' :: places) ++ rest) =
      let size := Decimal.nearest (whole ++ places) (0 - (places.length : Int))
      let x := if negative then -size else size
      if x == 1 / 0 then none else some (ofFloat x, rest) := by
  have hsign : readSign ((if negative then ['-'] else []) ++ (whole ++ '.' :: places) ++ rest) =
      (negative, whole ++ '.' :: (places ++ rest)) := by
    cases negative with
    | true => simp [readSign]
    | false => simpa using readSign_digits h.whole_digits h.whole_ne ('.' :: (places ++ rest))
  have hwhole := readWhole_digits h.whole_digits h.whole_ne h.whole_lead
    (breaks_point (places ++ rest))
  have hplaces := readFraction_point h.places_digits h.places_ne hrest
  simp only [readFloat, hsign, hwhole, hplaces, Option.bind_eq_bind, Option.bind_some]
  rfl

theorem readMoment_pointed {whole places : List Char} (h : Pointed whole places) (negative : Bool)
    (rest : List Char) :
    readMoment ((if negative then ['-'] else []) ++ (whole ++ '.' :: places) ++ rest) = none := by
  cases negative with
  | true => exact readMoment_minus _
  | false =>
      simpa using readMoment_digits h.whole_digits (breaks_point (places ++ rest))

theorem exists_cons_of_pointed {whole places : List Char} (h : Pointed whole places)
    (negative : Bool) : ∃ c cs, (c.isDigit = true ∨ c = '-') ∧
      (if negative then ['-'] else []) ++ (whole ++ '.' :: places) = c :: cs := by
  cases negative with
  | true => exact ⟨'-', _, .inr rfl, rfl⟩
  | false =>
      obtain ⟨d, ds, rfl⟩ := List.exists_cons_of_ne_nil h.whole_ne
      exact ⟨d, _, .inl (h.whole_digits d List.mem_cons_self), rfl⟩

theorem not_mem_of_isDigit {c : Char} (h : c.isDigit = true ∨ c = '-') :
    c ∉ ['t', 'f', '"', '\x27'] := by
  intro hmem
  simp only [List.mem_cons, List.not_mem_nil, or_false] at hmem
  rcases hmem with rfl | rfl | rfl | rfl <;> revert h <;> decide

/-! The three doubles that are written as words. -/

theorem readMoment_letter {c : Char} (hc : c.isDigit = false ∧ c ≠ '_' ∧ c ≠ '-' ∧ c ≠ ':')
    (cs : List Char) : readMoment (c :: cs) = none :=
  @readMoment_digits [] (c :: cs) (fun _ h => (List.not_mem_nil h).elim)
    fun _ h => Option.some.inj h ▸ hc

theorem readScalar_nan (rest : List Char) :
    readScalar ("nan".toList ++ rest) = some (ofFloat (Float.ofBits 0x7ff8000000000000), rest) := by
  show readScalar ('n' :: 'a' :: 'n' :: rest) = _
  rw [readScalar_number (by decide), readMoment_letter (by decide)]
  rfl

theorem readScalar_infinity (rest : List Char) :
    readScalar ("inf".toList ++ rest) = some (ofFloat (Float.ofBits 0x7ff0000000000000), rest) := by
  show readScalar ('i' :: 'n' :: 'f' :: rest) = _
  rw [readScalar_number (by decide), readMoment_letter (by decide)]
  rfl

theorem readScalar_minusInfinity (rest : List Char) :
    readScalar ("-inf".toList ++ rest) =
      some (ofFloat (Float.ofBits 0xfff0000000000000), rest) := by
  show readScalar ('-' :: 'i' :: 'n' :: 'f' :: rest) = _
  rw [readScalar_number (by decide), readMoment_minus]
  rfl

theorem readScalar_finite {x : Float} (hfinite : x.isFinite = true)
    (h : Decimal.read? (realText x) = some x) {rest : List Char} (hrest : Ends rest) :
    readScalar ((realText x).toList ++ rest) = some (ofFloat x, rest) := by
  obtain ⟨whole, places, hpointed, htext⟩ := exists_pointed hfinite
  rw [Decimal.read?_pointed hpointed htext] at h
  have hfloat := readFloat_pointed hpointed (Decimal.isNegative x) hrest
  simp only [Option.some.inj h, Decimal.beq_infinity_of_isFinite hfinite] at hfloat
  have hmoment := readMoment_pointed hpointed (Decimal.isNegative x) rest
  obtain ⟨c, cs, hc, hcs⟩ := exists_cons_of_pointed hpointed (Decimal.isNegative x)
  rw [hcs, List.cons_append] at hfloat hmoment
  rw [htext, hcs, List.cons_append, readScalar_number (not_mem_of_isDigit hc), hmoment, hfloat]
  rfl

/-- A double reads back if its digits do. -/
theorem readScalar_real {x : Float}
    (h : x.isFinite = true → Decimal.read? (realText x) = some x) {rest : List Char}
    (hrest : Ends rest) :
    readScalar ((realText x).toList ++ rest) = some (ofFloat x, rest) := by
  cases hnan : x.isNaN with
  | true =>
      obtain rfl := Decimal.eq_of_isNaN hnan
      exact readScalar_nan rest
  | false =>
      cases hinf : x.isInf with
      | true =>
          have hbits := Decimal.toBits_of_isInf hinf
          cases hsign : Decimal.isNegative x with
          | true =>
              obtain rfl : x = Float.ofBits 0xfff0000000000000 :=
                Float.toBits_inj.mp (by rw [hbits, hsign]; rfl)
              exact readScalar_minusInfinity rest
          | false =>
              obtain rfl : x = Float.ofBits 0x7ff0000000000000 :=
                Float.toBits_inj.mp (by rw [hbits, hsign]; rfl)
              exact readScalar_infinity rest
      | false =>
          have hfinite := Decimal.isFinite_iff.mpr ⟨hnan, hinf⟩
          exact readScalar_finite hfinite (h hfinite) hrest

/-- A decimal number without a sign. One that starts with zero and
goes on with a letter has another base. -/
theorem readInteger_whole {cs ds rest : List Char}
    (hbase : ∀ c more, cs = '0' :: c :: more → c ≠ 'x' ∧ c ≠ 'o' ∧ c ≠ 'b')
    (hsign : readSign cs = (false, cs)) (hwhole : readWhole cs = some (ds, rest))
    (hlong : isLong (Decimal.digitsValue ds) = true) :
    readInteger cs = some (.number (.int (Decimal.digitsValue ds)), rest) := by
  rw [readInteger, hsign]
  · simp [hwhole, hlong]
  · exact fun more heq => (hbase _ _ heq).1 rfl
  · exact fun more heq => (hbase _ _ heq).2.1 rfl
  · exact fun more heq => (hbase _ _ heq).2.2 rfl

theorem readScalar_nat {n : Nat} (h : isLong n = true) {rest : List Char} (hrest : Ends rest) :
    readScalar ((toString (n : Int)).toList ++ rest) = some (.number (.int n), rest) := by
  have htext : (toString (n : Int)).toList = Nat.toDigits 10 n := by
    rw [Int.toString_eq_repr, Int.repr_eq_if, if_pos (by omega), Int.toNat_natCast,
      Nat.repr_eq_ofList_toDigits, String.toList_ofList]
  have hds := Decimal.isDigit_toDigits n
  have hne : Nat.toDigits 10 n ≠ [] := Nat.toDigits_ne_nil
  have hlead : (Nat.toDigits 10 n).head? = some '0' → Nat.toDigits 10 n = ['0'] := by
    intro hzero
    by_cases hn : n = 0
    · subst hn
      rfl
    · exact absurd hzero (Decimal.head?_toDigits_ne_zero hn)
  have hsign := readSign_digits hds hne rest
  have hwhole := readWhole_digits hds hne hlead hrest.breaks
  have hmoment := readMoment_digits hds hrest.breaks
  have hfloat : readFloat (Nat.toDigits 10 n ++ rest) = none := by
    simp [readFloat, hsign, hwhole, readFraction_of_ends hrest]
  have hinteger : readInteger (Nat.toDigits 10 n ++ rest) = some (.number (.int n), rest) := by
    have hvalue : Decimal.digitsValue (Nat.toDigits 10 n) = n := Decimal.digitsValue_toDigits n
    have hread := readInteger_whole ?_ hsign hwhole (hvalue.symm ▸ h)
    · rwa [hvalue] at hread
    · intro c more heq
      have hdigits : Nat.toDigits 10 n = ['0'] := by
        refine hlead ?_
        have hhead := congrArg List.head? heq
        rwa [List.head?_append_of_ne_nil _ hne] at hhead
      rw [hdigits, List.singleton_append] at heq
      obtain rfl := (List.cons.inj heq).2
      rcases hrest c rfl with rfl | rfl | rfl <;> decide
  obtain ⟨c, cs, hcs⟩ := List.exists_cons_of_ne_nil hne
  have hc : c.isDigit = true := hds c (hcs ▸ List.mem_cons_self)
  have hspecial : readSpecial (Nat.toDigits 10 n ++ rest) = none := by
    rw [readSpecial, hsign, hcs]
    simp only [List.cons_append]
    split
    · next heq => exact absurd ((List.cons.inj heq).1 ▸ hc) (by decide)
    · next heq => exact absurd ((List.cons.inj heq).1 ▸ hc) (by decide)
    · rfl
  rw [hcs, List.cons_append] at hmoment hfloat hspecial hinteger
  rw [htext, hcs, List.cons_append, readScalar_number (not_mem_of_isDigit (.inl hc)), hmoment,
    hfloat, hspecial, hinteger]
  rfl

end ScriptScout.Toml
