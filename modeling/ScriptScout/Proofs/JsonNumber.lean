import Mathlib.Data.Option.Basic
import Mathlib.Data.String.Basic
import ScriptScout.Json.Writer
import ScriptScout.Proofs.JsonOrder
import ScriptScout.Proofs.Text.Parts

/-!
# Reading numbers

A number is read in the same way wherever it stands, as long as what
follows does not go on with it (`Stops`). So it is enough to know of a
number that its text by itself reads back (`Number.ReadsBack`); natural
numbers of 64 bits do (`readsBack_nat`).
-/

namespace ScriptScout.Json

/-! ## Numerals -/

/-- The number that the parts of a numeral write. -/
def numeralValue? (negative isInt : Bool) (whole fraction : List Char) (exponent : Int) :
    Option Number :=
  let n := Decimal.digitsValue whole
  if isInt && !negative && n < Nat.pow 2 64 then some (.int n)
  else if isInt && negative && 0 < n && n ≤ Nat.pow 2 63 then some (.int (-(n : Int)))
  else
    let (digits, dropped) := significand (whole ++ fraction)
    let e := exponent + (dropped - fraction.length : Nat) - (fraction.length - dropped : Nat)
    (scaleReal (e.natAbs / 308 + 2) (Float.ofNat digits) e).map fun x =>
      .real (if negative then -x else x)

/-- The reader takes a numeral apart and then finds its value. -/
theorem readUnsigned_eq_some_iff {negative : Bool} {cs more : List Char} {n : Number} :
    readUnsigned negative cs = some (n, more) ↔
      ((takeDigits cs).1 ≠ [] ∧ ((takeDigits cs).1.head? ≠ some '0' ∨ (takeDigits cs).1.length = 1))
      ∧ ∃ fraction afterFraction exponent,
        readFraction (takeDigits cs).2 = some (fraction, afterFraction)
        ∧ readExponent afterFraction = some (exponent, more)
        ∧ numeralValue? negative (fraction.isEmpty && more.length == (takeDigits cs).2.length)
          (takeDigits cs).1 fraction exponent = some n := by
  have hparts : readUnsigned negative cs = (do
      guard (!(takeDigits cs).1.isEmpty)
      guard ((takeDigits cs).1.head? != some '0' || (takeDigits cs).1.length == 1)
      let f ← readFraction (takeDigits cs).2
      let e ← readExponent f.2
      (numeralValue? negative (f.1.isEmpty && e.2.length == (takeDigits cs).2.length)
        (takeDigits cs).1 f.1 e.1).map (·, e.2)) := by
    simp only [readUnsigned, numeralValue?]
    refine bind_congr fun _ => bind_congr fun _ => bind_congr fun f => bind_congr fun e => ?_
    split
    · rfl
    · split
      · rfl
      · rw [Option.map_map]
        rw [Option.map_eq_bind]
        rfl
  rw [hparts]
  simp only [Option.bind_eq_bind, Option.bind_eq_some_iff, Option.guard_eq_some', exists_const,
    Option.map_eq_some_iff, Prod.mk.injEq, Prod.exists, Bool.not_eq_true',
    List.isEmpty_eq_false_iff, Bool.or_eq_true, bne_iff_ne, beq_iff_eq, and_assoc]
  constructor
  · rintro ⟨hne, hzero, fraction, after, hf, e, more', he, n', hn, rfl, rfl⟩
    exact ⟨hne, hzero, fraction, after, e, hf, he, hn⟩
  · rintro ⟨hne, hzero, fraction, after, e, hf, he, hn⟩
    exact ⟨hne, hzero, fraction, after, hf, e, more, he, n, hn, rfl, rfl⟩

/-- What follows does not go on with the number in front of it. -/
def Stops (rest : List Char) : Prop :=
  ∀ c ∈ rest.head?, (c.isDigit || c == '.' || c == 'e' || c == 'E') = false

theorem stops_nil : Stops [] := fun _ hc => (Option.not_mem_none _ hc).elim

theorem takeDigits_of_stops {rest : List Char} (h : Stops rest) : takeDigits rest = ([], rest) := by
  cases rest with
  | nil => rfl
  | cons c rest =>
      have hc : c.isDigit = false := by
        have := h c rfl
        simp only [Bool.or_eq_false_iff] at this
        exact this.1.1.1
      rw [takeDigits, List.takeWhile_cons, List.dropWhile_cons, hc]
      rfl

theorem takeDigits_of_all {ds rest : List Char} (hds : ∀ c ∈ ds, c.isDigit = true)
    (h : Stops rest) : takeDigits (ds ++ rest) = (ds, rest) := by
  have hrest := takeDigits_of_stops h
  simp only [takeDigits, Prod.mk.injEq] at hrest ⊢
  rw [List.takeWhile_append_of_pos hds, List.dropWhile_append_of_pos hds, hrest.1, hrest.2,
    List.append_nil]
  exact ⟨rfl, rfl⟩

theorem takeDigits_append {rest : List Char} (h : Stops rest) (cs : List Char) :
    takeDigits (cs ++ rest) = ((takeDigits cs).1, (takeDigits cs).2 ++ rest) := by
  induction cs with
  | nil => exact takeDigits_of_stops h
  | cons c cs ih =>
      simp only [takeDigits, Prod.mk.injEq] at ih
      cases hc : c.isDigit with
      | true => simp [takeDigits, hc, ih]
      | false => simp [takeDigits, hc]

theorem readFraction_of_ne {cs : List Char} (h : cs.head? ≠ some '.') :
    readFraction cs = some ([], cs) := by
  unfold readFraction
  split
  · exact absurd rfl h
  · rfl

theorem readFraction_append {rest cs ds more : List Char} (h : Stops rest)
    (hread : readFraction cs = some (ds, more)) :
    readFraction (cs ++ rest) = some (ds, more ++ rest) := by
  cases cs with
  | nil =>
      cases hread
      refine readFraction_of_ne fun hpoint => ?_
      exact absurd (h '.' hpoint) (by decide)
  | cons c cs =>
      by_cases hc : c = '.'
      · subst hc
        simp only [readFraction, List.cons_append, takeDigits_append h] at hread ⊢
        split at hread
        · cases hread
        · next hds =>
            rw [if_neg hds]
            cases hread
            rfl
      · have hne (cs : List Char) : (c :: cs).head? ≠ some '.' :=
          fun heq => hc (Option.some.inj heq)
        rw [readFraction_of_ne (hne cs)] at hread
        cases hread
        exact readFraction_of_ne (hne (cs ++ rest))

/-- The digits of an exponent behind its sign. -/
def exponentDigits (negative : Bool) (cs : List Char) : Option (Int × List Char) :=
  if (takeDigits cs).1.isEmpty then none
  else
    let n : Int := min (Decimal.digitsValue (takeDigits cs).1) 100000
    some (if negative then -n else n, (takeDigits cs).2)

theorem exponentDigits_append {rest cs more : List Char} {negative : Bool} {e : Int}
    (h : Stops rest) (hread : exponentDigits negative cs = some (e, more)) :
    exponentDigits negative (cs ++ rest) = some (e, more ++ rest) := by
  simp only [exponentDigits, takeDigits_append h] at hread ⊢
  split at hread
  · cases hread
  · next hds =>
      rw [if_neg hds]
      cases hread
      rfl

/-- Where the digits of an exponent start is settled by the character
behind the letter. -/
theorem exists_exponentDigits {c : Char} (hc : (c == 'e' || c == 'E') = true) (d : Char)
    (cs : List Char) : ∃ negative digits, ∀ rest,
      readExponent (c :: d :: (cs ++ rest)) = exponentDigits negative (digits ++ rest) := by
  by_cases hminus : d = '-'
  · subst hminus
    refine ⟨true, cs, fun rest => ?_⟩
    simp only [readExponent, hc, if_true]
    rfl
  · by_cases hplus : d = '+'
    · subst hplus
      refine ⟨false, cs, fun rest => ?_⟩
      simp only [readExponent, hc, if_true]
      rfl
    · refine ⟨false, d :: cs, fun rest => ?_⟩
      simp only [readExponent, hc, if_true]
      split
      · next heq => exact absurd (List.cons.inj heq).1 hminus
      · next heq => exact absurd (List.cons.inj heq).1 hplus
      · rfl

theorem readExponent_of_ne {cs : List Char} (h : ∀ c ∈ cs.head?, (c == 'e' || c == 'E') = false) :
    readExponent cs = some (0, cs) := by
  cases cs with
  | nil => rfl
  | cons c cs => exact if_neg (Bool.not_eq_true _ ▸ h c rfl)

theorem readExponent_append {rest cs more : List Char} {e : Int} (h : Stops rest)
    (hread : readExponent cs = some (e, more)) :
    readExponent (cs ++ rest) = some (e, more ++ rest) := by
  cases cs with
  | nil =>
      cases hread
      refine readExponent_of_ne fun c hc => ?_
      have hstop := h c hc
      simp only [Bool.or_eq_false_iff] at hstop ⊢
      exact ⟨hstop.1.2, hstop.2⟩
  | cons c cs =>
      cases hc : c == 'e' || c == 'E' with
      | false =>
          have hne (cs : List Char) : ∀ x ∈ (c :: cs).head?, (x == 'e' || x == 'E') = false :=
            fun x hx => Option.some.inj hx ▸ hc
          rw [readExponent_of_ne (hne cs)] at hread
          cases hread
          exact readExponent_of_ne (hne (cs ++ rest))
      | true =>
          cases cs with
          | nil =>
              simp only [readExponent, hc, if_true] at hread
              cases hread
          | cons d cs =>
              obtain ⟨negative, digits, hdigits⟩ := exists_exponentDigits hc d cs
              have hcs := hdigits []
              rw [List.append_nil, List.append_nil, hread] at hcs
              exact (hdigits rest).trans (exponentDigits_append h hcs.symm)

theorem readUnsigned_append {rest cs more : List Char} {negative : Bool} {n : Number}
    (h : Stops rest) (hread : readUnsigned negative cs = some (n, more)) :
    readUnsigned negative (cs ++ rest) = some (n, more ++ rest) := by
  obtain ⟨hwhole, fraction, after, exponent, hf, he, hn⟩ := readUnsigned_eq_some_iff.mp hread
  rw [readUnsigned_eq_some_iff, takeDigits_append h]
  refine ⟨hwhole, fraction, after ++ rest, exponent, readFraction_append h hf,
    readExponent_append h he, ?_⟩
  have hlength : ((more ++ rest).length == ((takeDigits cs).2 ++ rest).length) =
      (more.length == (takeDigits cs).2.length) := by
    rw [List.length_append, List.length_append, Bool.eq_iff_iff, beq_iff_eq, beq_iff_eq]
    exact Nat.add_right_cancel_iff
  rwa [hlength]

/-! ## Numbers that read back -/

/-- The text of the number reads back, to its end, as the same number.
What is not finite does not, and neither does every double that is:
the reader scales digits in doubles, which may round twice. -/
def Number.ReadsBack (n : Number) : Prop :=
  readValue 0 n.text.toList = some (.number n, [])

theorem readValue_digit {c : Char} (hc : c.isDigit = true) (depth : Nat) (cs : List Char) :
    readValue depth (c :: cs) =
      (readUnsigned false (c :: cs)).map fun (n, rest) => (.number n, rest) := by
  unfold readValue
  split <;> first
    | rfl
    | next heq => exact absurd ((List.cons.inj heq).1 ▸ hc) (by decide)

theorem readsBack_nat {n : Nat} (h : n < 2 ^ 64) : (Number.int n).ReadsBack := by
  have htext : (Number.int n).text.toList = Nat.toDigits 10 n := by
    rw [Number.text, Int.toString_eq_repr, Int.repr_eq_if, if_pos (by omega), Int.toNat_natCast,
      Nat.repr_eq_ofList_toDigits, String.toList_ofList]
  have hdigits : takeDigits (Nat.toDigits 10 n) = (Nat.toDigits 10 n, []) := by
    have hall := Decimal.isDigit_toDigits n
    simpa only [List.append_nil] using takeDigits_of_all hall stops_nil
  have hread : readUnsigned false (Nat.toDigits 10 n) = some (.int n, []) := by
    rw [readUnsigned_eq_some_iff, hdigits]
    refine ⟨⟨Nat.toDigits_ne_nil, ?_⟩, [], [], 0, rfl, rfl, ?_⟩
    · by_cases hzero : n = 0
      · subst hzero
        exact .inr rfl
      · exact .inl (Decimal.head?_toDigits_ne_zero hzero)
    · have hsmall : (n < Nat.pow 2 64) = True := eq_true h
      simp only [numeralValue?, Decimal.digitsValue_toDigits, hsmall]
      rfl
  obtain ⟨c, cs, hcs⟩ := List.exists_cons_of_ne_nil (Nat.toDigits_ne_nil (n := n) (b := 10))
  have hc : c.isDigit = true := Decimal.isDigit_toDigits n c (by rw [hcs]; exact List.mem_cons_self)
  rw [Number.ReadsBack, htext, hcs, readValue_digit hc, ← hcs, hread]
  rfl

/-- A number starts with a minus or a digit. -/
theorem readValue_number {depth : Nat} {cs more : List Char} {n : Number}
    (h : readValue depth cs = some (.number n, more)) :
    (∃ tail, cs = '-' :: tail ∧ readUnsigned true tail = some (n, more))
      ∨ ∃ c tail, cs = c :: tail ∧ c.isDigit = true
        ∧ readUnsigned false (c :: tail) = some (n, more) := by
  revert h
  fun_cases readValue depth cs <;> intro h
  case case6 tail =>
    obtain ⟨p, hread, heq⟩ := Option.map_eq_some_iff.mp h
    cases heq
    exact .inl ⟨tail, rfl, hread⟩
  case case10 =>
    obtain ⟨p, hread, heq⟩ := Option.map_eq_some_iff.mp h
    cases heq
    obtain ⟨⟨hne, -⟩, -⟩ := readUnsigned_eq_some_iff.mp hread
    cases cs with
    | nil => exact absurd rfl hne
    | cons c tail =>
        cases hc : c.isDigit with
        | true => exact .inr ⟨c, tail, rfl, hc, hread⟩
        | false => exact absurd (by rw [takeDigits, List.takeWhile_cons, hc]; rfl) hne
  case case3 =>
    obtain ⟨_, -, heq⟩ := Option.bind_eq_some_iff.mp h
    cases heq
  case case5 =>
    obtain ⟨_, -, heq⟩ := Option.bind_eq_some_iff.mp h
    cases heq
  case case2 => cases h
  case case4 => cases h
  all_goals
    obtain ⟨_, -, heq⟩ := Option.map_eq_some_iff.mp h
    cases heq

/-- A number is read in the same way wherever it stands. -/
theorem Number.ReadsBack.readValue {n : Number} (h : n.ReadsBack) {rest : List Char}
    (hrest : Stops rest) (depth : Nat) :
    readValue depth (n.text.toList ++ rest) = some (.number n, rest) := by
  rcases readValue_number h with ⟨tail, htext, hread⟩ | ⟨c, tail, htext, hc, hread⟩
  · have hread' := readUnsigned_append hrest hread
    rw [htext, List.cons_append, Json.readValue, hread']
    rfl
  · have hread' := readUnsigned_append hrest hread
    rw [htext, List.cons_append, readValue_digit hc, ← List.cons_append, hread']
    rfl

end ScriptScout.Json
