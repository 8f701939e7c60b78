import ScriptScout.Files.Ignore
import ScriptScout.Proofs.Text.Bytes

/-!
# The glob of an excluded directory

A pattern of the settings that ends in a slash excludes what is inside
a directory. The rule for it is made by putting `**` behind the slash,
and so the pattern has a slash that is not at its end: it counts from
the start of the search. For a plain name the glob is `below name`
(`exclusion?_directory`), and it fits exactly the paths that start with
the name and a slash (`fits_below`).

A glob fits a path if its tokens can take off all bytes of it, one
token after the other (`mem_restsAll_cons`). Literal characters take
off their own bytes and nothing else (`mem_restsAll_literals`).
-/

namespace ScriptScout

namespace Glob

/-! ## What tokens leave -/

theorem restsAll_nil (remaining : List (List UInt8)) : restsAll remaining [] = remaining := rfl

theorem restsAll_cons (remaining : List (List UInt8)) (t : GlobToken) (ts : List GlobToken) :
    restsAll remaining (t :: ts) =
      restsAll ((remaining.flatMap fun bs => rests bs t).eraseDups) ts := rfl

theorem rests_literal (bs : List UInt8) (c : Char) :
    rests bs (.literal c) =
      [bs.drop (charBytes c).length].filter fun _ => (charBytes c).isPrefixOf bs := rfl

theorem rests_anyBytes (bs : List UInt8) :
    rests bs .anyBytes = afterBytes (· != slash) bs := rfl

theorem rests_anyMiddle_nil : rests [] .anyMiddle = [] := rfl

theorem rests_anyMiddle_cons (b : UInt8) (bs : List UInt8) :
    rests (b :: bs) .anyMiddle = if b == slash then bs :: afterSlashes bs else [] := rfl

theorem mem_restsAll {r : List UInt8} {remaining : List (List UInt8)} {tokens : List GlobToken} :
    r ∈ restsAll remaining tokens ↔ ∃ bs ∈ remaining, r ∈ restsAll [bs] tokens := by
  induction tokens generalizing remaining with
  | nil => simp [restsAll_nil]
  | cons t ts ih =>
      simp only [restsAll_cons]
      rw [ih]
      simp only [List.mem_eraseDups, List.mem_flatMap]
      constructor
      · rintro ⟨mid, ⟨bs, hbs, hmid⟩, hr⟩
        exact ⟨bs, hbs, ih.mpr ⟨mid, by simpa using hmid, hr⟩⟩
      · rintro ⟨bs, hbs, hr⟩
        obtain ⟨mid, hmid, hr⟩ := ih.mp hr
        exact ⟨mid, ⟨bs, hbs, by simpa using hmid⟩, hr⟩

theorem mem_restsAll_cons {r bs : List UInt8} {t : GlobToken} {ts : List GlobToken} :
    r ∈ restsAll [bs] (t :: ts) ↔ ∃ mid ∈ rests bs t, r ∈ restsAll [mid] ts := by
  rw [restsAll_cons, mem_restsAll]
  simp

theorem charBytes_eq (c : Char) : charBytes c = String.utf8EncodeChar c := by
  rw [charBytes, Text.toList_toUTF8, Text.bytes_eq_flatMap, String.toList_singleton]
  simp

theorem mem_rests_literal {mid bs : List UInt8} {c : Char} :
    mid ∈ rests bs (.literal c) ↔ bs = String.utf8EncodeChar c ++ mid := by
  rw [rests_literal, charBytes_eq, List.mem_filter, List.mem_singleton, List.isPrefixOf_iff_prefix]
  constructor
  · rintro ⟨rfl, tail, rfl⟩
    rw [List.drop_left]
  · rintro rfl
    exact ⟨(List.drop_left ..).symm, List.prefix_append ..⟩

/-- Literal tokens take off their own text. -/
theorem mem_restsAll_literals {r bs : List UInt8} {cs : List Char} {ts : List GlobToken} :
    r ∈ restsAll [bs] (cs.map .literal ++ ts) ↔
      ∃ mid, bs = cs.flatMap String.utf8EncodeChar ++ mid ∧ r ∈ restsAll [mid] ts := by
  induction cs generalizing bs with
  | nil => simp
  | cons c cs ih =>
      rw [List.map_cons, List.cons_append, mem_restsAll_cons]
      constructor
      · rintro ⟨mid, hmid, hr⟩
        obtain ⟨rest, rfl, hrest⟩ := ih.mp hr
        refine ⟨rest, ?_, hrest⟩
        rw [mem_rests_literal.mp hmid, List.flatMap_cons, List.append_assoc]
      · rintro ⟨rest, rfl, hrest⟩
        refine ⟨_, mem_rests_literal.mpr ?_, ih.mpr ⟨rest, rfl, hrest⟩⟩
        rw [List.flatMap_cons, List.append_assoc]

theorem nil_mem_afterBytes {fits : UInt8 → Bool} {bs : List UInt8}
    (h : ∀ b ∈ bs, fits b = true) : [] ∈ afterBytes fits bs := by
  induction bs with
  | nil => simp [afterBytes]
  | cons b bs ih =>
      obtain ⟨hb, hbs⟩ := List.forall_mem_cons.mp h
      simp [afterBytes, hb, ih hbs]

/-- Behind the last slash there is none. -/
theorem exists_without_slash (bs : List UInt8) :
    ∃ mid ∈ bs :: afterSlashes bs, ∀ b ∈ mid, (b != slash) = true := by
  induction bs with
  | nil => exact ⟨[], by simp, by simp⟩
  | cons b bs ih =>
      obtain ⟨mid, hmid, hfree⟩ := ih
      by_cases hb : b = slash
      · refine ⟨mid, List.mem_cons_of_mem _ ?_, hfree⟩
        simpa [afterSlashes, hb] using hmid
      · rcases List.mem_cons.mp hmid with rfl | hmid
        · exact ⟨b :: mid, by simp, List.forall_mem_cons.mpr ⟨by simpa using hb, hfree⟩⟩
        · exact ⟨mid, List.mem_cons_of_mem _ (by simp [afterSlashes, hmid]), hfree⟩

/-- Any directories and a name take off a slash with all behind it. -/
theorem nil_mem_restsAll_inside {bs : List UInt8} :
    [] ∈ restsAll [bs] [.anyMiddle, .anyBytes] ↔ ∃ rest, bs = slash :: rest := by
  rw [mem_restsAll_cons]
  constructor
  · rintro ⟨mid, hmid, -⟩
    cases bs with
    | nil => simp [rests_anyMiddle_nil] at hmid
    | cons b bs =>
        by_cases hb : b = slash
        · exact ⟨bs, by rw [hb]⟩
        · simp [rests_anyMiddle_cons, hb] at hmid
  · rintro ⟨rest, rfl⟩
    obtain ⟨mid, hmid, hfree⟩ := exists_without_slash rest
    refine ⟨mid, by simpa [rests_anyMiddle_cons] using hmid, ?_⟩
    rw [mem_restsAll_cons]
    exact ⟨[], by simpa [rests_anyBytes] using nil_mem_afterBytes hfree, by simp [restsAll_nil]⟩

/-! ## The glob for what is inside a directory -/

/-- The glob for all that is inside the directory of a name. -/
def below (name : String) : Glob :=
  ⟨name.toList.map .literal ++ [.anyMiddle, .anyBytes]⟩

theorem fits_of_ne {g : Glob} (h : g.tokens.length ≠ 1) (path : String) :
    g.fits path = (restsAll [path.toUTF8.toList] g.tokens).any List.isEmpty := by
  unfold fits
  split
  · next heq => simp [heq] at h
  · rfl

theorem fits_below {name path : String} :
    (below name).fits path = true ↔ ∃ rest, path = name ++ "/" ++ rest := by
  rw [fits_of_ne (by simp [below]), List.any_eq_true, Text.toList_toUTF8]
  have hslash : Text.bytes "/" = [slash] := by decide
  constructor
  · rintro ⟨r, hr, hempty⟩
    obtain rfl := List.isEmpty_iff.mp hempty
    obtain ⟨mid, hmid, hinside⟩ := mem_restsAll_literals.mp hr
    obtain ⟨rest, rfl⟩ := nil_mem_restsAll_inside.mp hinside
    have hbytes : Text.bytes path = Text.bytes (name ++ "/") ++ rest := by
      rw [Text.bytes_append, hslash, Text.bytes_eq_flatMap name, hmid, List.append_assoc]
      rfl
    exact Text.exists_append_of_bytes hbytes
  · rintro ⟨rest, rfl⟩
    refine ⟨[], mem_restsAll_literals.mpr ⟨slash :: Text.bytes rest, ?_, ?_⟩, rfl⟩
    · rw [Text.bytes_append, Text.bytes_append, hslash, Text.bytes_eq_flatMap name,
        List.append_assoc]
      rfl
    · exact nil_mem_restsAll_inside.mpr ⟨_, rfl⟩

/-! ## Reading it -/

/-- A character that a glob takes as it is. -/
def IsLiteral (c : Char) : Prop := c ∉ ['?', '*', '[', '{', '}', '\\']

theorem read_literal {c : Char} (hc : IsLiteral c) (lenient : Bool) (fuel : Nat)
    (done : List GlobToken) (last : Option Char) (cs : List Char) :
    read lenient (fuel + 1) ⟨[done], [], last, false⟩ (c :: cs) =
      read lenient fuel ⟨[.literal c :: done], [], some c, false⟩ cs := by
  simp only [IsLiteral, List.mem_cons, List.not_mem_nil, or_false, not_or] at hc
  by_cases hcomma : c = ','
  · subst hcomma
    rfl
  · rw [read]
    · rfl
    all_goals simp [hc, hcomma]

theorem read_literals {cs : List Char} (hcs : ∀ c ∈ cs, IsLiteral c) (lenient : Bool) (fuel : Nat)
    (done : List GlobToken) (last : Option Char) (rest : List Char) :
    read lenient (cs.length + fuel) ⟨[done], [], last, false⟩ (cs ++ rest) =
      read lenient fuel ⟨[(cs.map .literal).reverse ++ done], [], cs.getLast?.or last, false⟩
        rest := by
  induction cs generalizing done last with
  | nil => simp
  | cons c cs ih =>
      obtain ⟨hc, hcs⟩ := List.forall_mem_cons.mp hcs
      have hfuel : (c :: cs).length + fuel = cs.length + fuel + 1 := by
        rw [List.length_cons]
        omega
      rw [hfuel, List.cons_append, read_literal hc, ih hcs]
      simp [List.getLast?_cons]

/-- A slash, two stars and another slash are one token. -/
theorem read_inside (lenient : Bool) (done : List GlobToken) :
    read lenient 4 ⟨[.literal '/' :: done], [], some '/', false⟩ ['*', '*', '/', '*'] =
      some ⟨[.anyBytes :: .anyMiddle :: done], [], some '*', false⟩ :=
  rfl

theorem parse?_below {name : String} (hname : ∀ c ∈ name.toList, IsLiteral c) (lenient : Bool) :
    parse? lenient (name.toList ++ ['/', '*', '*', '/', '*']) = some (below name) := by
  have hlead : ∀ c ∈ name.toList ++ ['/'], IsLiteral c := by
    rw [List.forall_mem_append, List.forall_mem_singleton]
    exact ⟨hname, by simp [IsLiteral]⟩
  have htext : name.toList ++ ['/', '*', '*', '/', '*'] =
      (name.toList ++ ['/']) ++ ['*', '*', '/', '*'] := by simp
  have hread := read_literals hlead lenient 4 [] none ['*', '*', '/', '*']
  simp only [List.map_append, List.map_cons, List.map_nil, List.reverse_append,
    List.reverse_cons, List.reverse_nil, List.nil_append, List.append_nil, List.cons_append,
    List.getLast?_concat, Option.some_or] at hread
  rw [read_inside] at hread
  rw [parse?, htext, List.length_append]
  refine (congrArg (Option.bind · _) hread).trans ?_
  simp [below]

end Glob

/-! ## The rule of an excluded directory -/

namespace Ignore.Rule

/-- A name that can be written in a pattern as it is. -/
structure IsPlain (name : String) : Prop where
  nonempty : name ≠ ""
  literal : ∀ c ∈ name.toList, c ≠ '/' ∧ Glob.IsLiteral c

theorem exclusion?_directory {name : String} (h : IsPlain name) :
    exclusion? (name ++ "/") = some ⟨.skip, false, Glob.below name⟩ := by
  have htrim : trimLine (name.toList ++ ['/', '*', '*']) = name.toList ++ ['/', '*', '*'] := by
    have hblank : Text.isBlank '*' = false := by decide
    rw [trimLine]
    split
    · rfl
    · simp [Text.trimEnd, hblank]
  have hmark : directoryMark (name.toList ++ ['/', '*', '*']) =
      (false, name.toList ++ ['/', '*', '*']) := by
    simp [directoryMark]
  have hglob : globText false (name.toList ++ ['/', '*', '*']) =
      name.toList ++ ['/', '*', '*', '/', '*'] := by
    have hsuffix : ['/', '*', '*'].isSuffixOf (name.toList ++ ['/', '*', '*']) = true :=
      List.isSuffixOf_iff_suffix.mpr (List.suffix_append ..)
    simp [globText, hsuffix]
  have hrule : ofPattern? false .skip false (name.toList ++ ['/', '*', '*']) =
      some ⟨.skip, false, Glob.below name⟩ := by
    rw [ofPattern?, hmark]
    simp [hglob, Glob.parse?_below fun c hc => (h.literal c hc).2]
  have hanchor : ofAnchorable? false .skip (name.toList ++ ['/', '*', '*']) =
      ofPattern? false .skip false (name.toList ++ ['/', '*', '*']) := by
    cases hcs : name.toList with
    | nil => exact absurd (String.toList_eq_nil_iff.mp hcs) h.nonempty
    | cons c cs =>
        have hc : c ≠ '/' := (h.literal c (by simp [hcs])).1
        rw [List.cons_append, ofAnchorable?]
        simp [hc]
  rw [exclusion?, String.toList_append]
  simp [htrim, hanchor, hrule]

end Ignore.Rule

end ScriptScout
