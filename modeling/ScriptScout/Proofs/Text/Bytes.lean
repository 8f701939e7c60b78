import Mathlib.Data.Option.Basic
import ScriptScout.Text.Span

/-!
# Offsets into the UTF-8 form

Offsets count bytes, and a text is cut between characters. What a cut
gives is said without counting: `slice?_eq_some_iff` has the characters
before, between and behind the two offsets, and neighbouring slices
make up a slice (`slice?_append`).

The offsets at which a list of characters can be cut are the valid
positions of the string (`isBoundary_toList_iff`). The others, up to
the end, are those inside a character (`insideChar_iff`): the induction
is on the text, one character more at its end.
-/

namespace ScriptScout.Text

/-! ## The UTF-8 form -/

/-- The UTF-8 form of a text, byte by byte. -/
def bytes (s : String) : List UInt8 := s.toUTF8.data.toList

theorem bytes_eq_flatMap (s : String) : bytes s = s.toList.flatMap String.utf8EncodeChar := by
  rw [bytes, String.toUTF8_eq_toByteArray, ← String.utf8Encode_toList, List.utf8Encode,
    List.toList_data_toByteArray]

theorem bytes_append (s t : String) : bytes (s ++ t) = bytes s ++ bytes t := by
  simp only [bytes_eq_flatMap, String.toList_append, List.flatMap_append]

theorem length_bytes (s : String) : (bytes s).length = s.utf8ByteSize := by
  rw [bytes, Array.length_toList]
  rfl

theorem byteLength_eq_length (cs : List Char) :
    byteLength cs = (cs.flatMap String.utf8EncodeChar).length := by
  induction cs with
  | nil => rfl
  | cons c cs ih =>
      rw [byteLength_cons, List.flatMap_cons, List.length_append, String.length_utf8EncodeChar, ih]

theorem byteLength_toList (s : String) : byteLength s.toList = s.utf8ByteSize := by
  rw [byteLength_eq_length, ← bytes_eq_flatMap, length_bytes]

theorem toList_loop (bs : ByteArray) (i : Nat) (done : List UInt8) :
    ByteArray.toList.loop bs i done = done.reverse ++ bs.data.toList.drop i := by
  fun_induction ByteArray.toList.loop bs i done with
  | case1 i done hlt ih =>
      have hi : i < bs.data.toList.length := hlt
      have hget : bs.get! i = bs.data.toList[i] := getElem!_pos bs.data i hlt
      rw [ih, List.drop_eq_getElem_cons hi, hget]
      simp
  | case2 i done hge =>
      have hi : bs.data.toList.length ≤ i := Nat.le_of_not_lt hge
      rw [List.drop_eq_nil_of_le hi, List.append_nil]

theorem toList_toUTF8 (s : String) : s.toUTF8.toList = bytes s := by
  rw [ByteArray.toList, toList_loop]
  rfl

/-- Where the bytes of a text start with those of another, so do the
texts. -/
theorem exists_append_of_bytes {s t : String} {rest : List UInt8}
    (h : bytes t = bytes s ++ rest) : ∃ u, t = s ++ u := by
  have henc : s.toList.utf8Encode ++ rest.toByteArray = t.toList.utf8Encode := by
    rw [List.utf8Encode, List.utf8Encode, ← bytes_eq_flatMap, ← bytes_eq_flatMap, h,
      List.toByteArray_append]
  obtain ⟨u, hu⟩ := List.isPrefix_of_utf8Encode_append_eq_utf8Encode _ henc
  refine ⟨String.ofList u, String.toList_injective ?_⟩
  rw [String.toList_append, String.toList_ofList, hu]

/-! ## Cuts -/

/-- Cutting at an offset succeeds exactly where a character ends. -/
theorem splitAtByte?_eq_some_iff {cs xs ys : List Char} {n : Nat} :
    splitAtByte? cs n = some (xs, ys) ↔ cs = xs ++ ys ∧ byteLength xs = n := by
  constructor
  · intro h
    fun_induction splitAtByte? cs n generalizing xs with
    | case1 cs =>
        cases h
        exact ⟨rfl, rfl⟩
    | case2 => cases h
    | case3 c cs n hfits ih =>
        obtain ⟨⟨front, rest⟩, hsplit, heq⟩ := Option.map_eq_some_iff.mp h
        cases heq
        obtain ⟨rfl, hlength⟩ := ih hsplit
        refine ⟨rfl, ?_⟩
        rw [byteLength_cons, hlength]
        omega
    | case4 => cases h
  · rintro ⟨rfl, rfl⟩
    exact splitAtByte?_append xs ys

/-- A text has one front of a given length in bytes. -/
theorem append_inj_of_byteLength {xs ys xs' ys' : List Char} (h : xs ++ ys = xs' ++ ys')
    (hlength : byteLength xs = byteLength xs') : xs = xs' ∧ ys = ys' := by
  have hcut := splitAtByte?_append xs ys
  rw [h, hlength, splitAtByte?_append, Option.some.injEq, Prod.mk.injEq] at hcut
  exact ⟨hcut.1.symm, hcut.2.symm⟩

theorem slice?_eq_some {cs mid : List Char} {start stop : Nat} :
    slice? cs start stop = some mid ↔ start ≤ stop ∧ ∃ front tail rest,
      splitAtByte? cs start = some (front, tail)
        ∧ splitAtByte? tail (stop - start) = some (mid, rest) := by
  by_cases h : start ≤ stop
  · have hguard : (guard (start ≤ stop) : Option Unit) = some () := if_pos h
    rw [slice?, hguard]
    simp [h, Option.bind_eq_some_iff]
  · have hguard : (guard (start ≤ stop) : Option Unit) = none := if_neg h
    rw [slice?, hguard]
    simp [h]

/-- What lies between two offsets. -/
theorem slice?_eq_some_iff {cs mid : List Char} {start stop : Nat} :
    slice? cs start stop = some mid ↔
      ∃ xs zs, cs = xs ++ mid ++ zs ∧ byteLength xs = start ∧ byteLength (xs ++ mid) = stop := by
  simp only [slice?_eq_some, splitAtByte?_eq_some_iff, byteLength_append]
  constructor
  · rintro ⟨hle, front, tail, rest, ⟨rfl, rfl⟩, rfl, hmid⟩
    exact ⟨front, rest, (List.append_assoc ..).symm, rfl, by omega⟩
  · rintro ⟨xs, zs, rfl, rfl, rfl⟩
    exact ⟨by omega, xs, mid ++ zs, zs, ⟨List.append_assoc .., rfl⟩, rfl, by omega⟩

/-- Two slices that meet make up one. -/
theorem slice?_append {cs xs ys : List Char} {start middle stop : Nat}
    (hxs : slice? cs start middle = some xs) (hys : slice? cs middle stop = some ys) :
    slice? cs start stop = some (xs ++ ys) := by
  obtain ⟨front, rest, rfl, rfl, rfl⟩ := slice?_eq_some_iff.mp hxs
  obtain ⟨front', rest', heq, hlength, rfl⟩ := slice?_eq_some_iff.mp hys
  rw [List.append_assoc front'] at heq
  obtain ⟨rfl, rfl⟩ := append_inj_of_byteLength heq hlength.symm
  exact slice?_eq_some_iff.mpr ⟨front, rest', by simp, rfl, by simp⟩

/-! ## Boundaries -/

/-- The offset lies between two characters, or at an end of the text. -/
def IsBoundary (cs : List Char) (n : Nat) : Prop :=
  ∃ xs ys, cs = xs ++ ys ∧ byteLength xs = n

theorem isBoundary_iff {cs : List Char} {n : Nat} :
    IsBoundary cs n ↔ (splitAtByte? cs n).isSome = true := by
  simp [IsBoundary, Option.isSome_iff_exists, splitAtByte?_eq_some_iff]

instance (cs : List Char) (n : Nat) : Decidable (IsBoundary cs n) :=
  decidable_of_iff _ isBoundary_iff.symm

theorem isBoundary_of_slice? {cs mid : List Char} {start stop : Nat}
    (h : slice? cs start stop = some mid) : IsBoundary cs start ∧ IsBoundary cs stop := by
  obtain ⟨xs, zs, rfl, rfl, rfl⟩ := slice?_eq_some_iff.mp h
  exact ⟨⟨xs, mid ++ zs, List.append_assoc .., rfl⟩, xs ++ mid, zs, rfl, rfl⟩

/-- Between two boundaries there is a slice. -/
theorem exists_slice? {cs : List Char} {start stop : Nat} (hle : start ≤ stop)
    (hstart : IsBoundary cs start) (hstop : IsBoundary cs stop) :
    ∃ mid, slice? cs start stop = some mid := by
  obtain ⟨xs, ys, rfl, rfl⟩ := hstart
  obtain ⟨xs', ys', heq, rfl⟩ := hstop
  rcases List.append_eq_append_iff.mp heq with ⟨mid, rfl, rfl⟩ | ⟨mid, rfl, rfl⟩
  · exact ⟨mid, slice?_eq_some_iff.mpr ⟨xs, ys', by simp, rfl, rfl⟩⟩
  · rw [byteLength_append] at hle
    have hmid : byteLength mid = 0 := by omega
    refine ⟨[], slice?_eq_some_iff.mpr ⟨xs', mid ++ ys, by simp, ?_, by simp⟩⟩
    rw [byteLength_append, hmid]
    rfl

theorem isBoundary_toList_iff {source : String} {n : Nat} :
    IsBoundary source.toList n ↔ String.Pos.Raw.IsValid source ⟨n⟩ := by
  rw [String.Pos.Raw.isValid_iff_exists_append]
  constructor
  · rintro ⟨xs, ys, hsource, rfl⟩
    refine ⟨String.ofList xs, String.ofList ys, ?_, ?_⟩
    · rw [← String.ofList_append, ← hsource, String.ofList_toList]
    · rw [String.Pos.Raw.ext_iff, String.byteIdx_rawEndPos, ← byteLength_toList,
        String.toList_ofList]
  · rintro ⟨before, after, rfl, hend⟩
    refine ⟨before.toList, after.toList, String.toList_append, ?_⟩
    rw [byteLength_toList, ← String.byteIdx_rawEndPos, ← hend]

/-! ## Offsets inside a character -/

/-- The offset lies inside a character: behind its first byte, and
before the end of its last. -/
def InsideChar (source : String) (n : Nat) : Prop :=
  ∃ (before : String) (c : Char) (after : String), source = before.push c ++ after
    ∧ before.utf8ByteSize < n ∧ n < (before.push c).utf8ByteSize

theorem append_push (s t : String) (c : Char) : s ++ t.push c = (s ++ t).push c := by
  rw [← String.append_singleton, ← String.append_singleton, String.append_assoc]

/-- Behind one character more, an offset is inside that one or inside
one before it. -/
theorem insideChar_push {s : String} {c : Char} {n : Nat} :
    InsideChar (s.push c) n ↔
      InsideChar s n ∨ s.utf8ByteSize < n ∧ n < (s.push c).utf8ByteSize := by
  constructor
  · rintro ⟨before, d, after, heq, hlo, hhi⟩
    cases after using String.push_induction with
    | empty =>
        rw [String.append_empty, String.push_inj] at heq
        obtain ⟨rfl, rfl⟩ := heq
        exact .inr ⟨hlo, hhi⟩
    | push after e =>
        rw [append_push, String.push_inj] at heq
        exact .inl ⟨before, d, after, heq.1, hlo, hhi⟩
  · rintro (⟨before, d, after, rfl, hlo, hhi⟩ | ⟨hlo, hhi⟩)
    · exact ⟨before, d, after.push c, (append_push ..).symm, hlo, hhi⟩
    · exact ⟨s, c, "", String.append_empty.symm, hlo, hhi⟩

theorem insideChar_iff {source : String} {n : Nat} :
    InsideChar source n ↔ n < source.utf8ByteSize ∧ ¬ String.Pos.Raw.IsValid source ⟨n⟩ := by
  induction source using String.push_induction with
  | empty =>
      refine ⟨?_, fun h => absurd h.1 (Nat.not_lt_zero n)⟩
      rintro ⟨before, c, after, heq, -⟩
      simpa using congrArg String.toList heq
  | push s c ih =>
      have hend : n = s.utf8ByteSize → String.Pos.Raw.IsValid s ⟨n⟩ :=
        fun h => String.Pos.Raw.isValid_of_eq_rawEndPos (String.Pos.Raw.ext h)
      have hle : String.Pos.Raw.IsValid s ⟨n⟩ → n ≤ s.utf8ByteSize := fun h => h.le_utf8ByteSize
      have hpos : 0 < c.utf8Size := Char.utf8Size_pos c
      rw [insideChar_push, ih, String.Pos.Raw.isValid_push, String.utf8ByteSize_push,
        String.Pos.Raw.ext_iff]
      simp only [String.Pos.Raw.byteIdx_add_char, String.byteIdx_rawEndPos]
      grind

instance (source : String) (n : Nat) : Decidable (InsideChar source n) :=
  decidable_of_iff _ insideChar_iff.symm

theorem not_isValid_iff {source : String} {n : Nat} :
    ¬ String.Pos.Raw.IsValid source ⟨n⟩ ↔ source.utf8ByteSize < n ∨ InsideChar source n := by
  have hend : n = source.utf8ByteSize → String.Pos.Raw.IsValid source ⟨n⟩ :=
    fun h => String.Pos.Raw.isValid_of_eq_rawEndPos (String.Pos.Raw.ext h)
  have hle : String.Pos.Raw.IsValid source ⟨n⟩ → n ≤ source.utf8ByteSize :=
    fun h => h.le_utf8ByteSize
  rw [insideChar_iff]
  grind

end ScriptScout.Text
