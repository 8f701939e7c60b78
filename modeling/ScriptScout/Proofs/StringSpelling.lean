import Mathlib.Data.List.Basic
import Mathlib.Data.Option.Basic
import ScriptScout.Proofs.Text.Parts
import ScriptScout.Syntax.Lowering

/-!
# Spellings of a string

A character of a string can be written as itself or behind a backslash,
in many ways. `Spells` lists the ways behind a backslash, and
`Writes pieces s` says that the pieces of a literal, plain text and
escape sequences, write the characters `s`. Neither knows how escapes
are decoded. `cook_of_writes` is the way back: whatever the spelling,
the value of the literal is the string that was written.

The heart of it is one escape (`Spells.unescape_eq`), and in there the
digits of a code: `HexNumeral` is what digits mean by their places,
with zeros in front and letters of either case, and
`HexNumeral.numeral?_eq` says that the reader finds this number.
-/

namespace ScriptScout

/-! ## Codes in digits -/

/-- The character is the digit with this value in base sixteen, in
either case. -/
def IsHexDigit (c : Char) (value : Nat) : Prop :=
  value < 16 ∧ (c = Text.hexDigit value ∨ c = (Text.hexDigit value).toUpper)

/-- The number that digits write in base sixteen. -/
inductive HexNumeral : List Char → Nat → Prop
  | digit {c : Char} {value : Nat} (h : IsHexDigit c value) : HexNumeral [c] value
  | snoc {cs : List Char} {n : Nat} {c : Char} {value : Nat} (hcs : HexNumeral cs n)
      (h : IsHexDigit c value) : HexNumeral (cs ++ [c]) (16 * n + value)

theorem IsHexDigit.hexValue? {c : Char} {value : Nat} (h : IsHexDigit c value) :
    Text.hexValue? c = some value := by
  obtain ⟨hvalue, rfl | rfl⟩ := h
  · exact Text.hexValue?_hexDigit value hvalue
  · exact Text.hexValue?_toUpper_hexDigit value hvalue

theorem IsHexDigit.ne_brace {c : Char} {value : Nat} (h : IsHexDigit c value) :
    c ≠ '\x7b' ∧ c ≠ '\x7d' := by
  have hc := h.hexValue?
  constructor <;>
  · rintro rfl
    cases hc

theorem HexNumeral.ne_nil {cs : List Char} {n : Nat} (h : HexNumeral cs n) : cs ≠ [] := by
  cases h <;> simp

theorem HexNumeral.ne_brace {cs : List Char} {n : Nat} (h : HexNumeral cs n) :
    ∀ c ∈ cs, c ≠ '\x7b' ∧ c ≠ '\x7d' := by
  induction h with
  | digit h => exact List.forall_mem_singleton.mpr h.ne_brace
  | snoc _ h ih => exact List.forall_mem_append.mpr ⟨ih, List.forall_mem_singleton.mpr h.ne_brace⟩

/-- One digit more. -/
theorem numeral?_snoc {bound n value : Nat} {cs : List Char} {c : Char}
    (hcs : Text.numeral? 16 bound cs = some n) (hc : IsHexDigit c value)
    (hbound : 16 * n + value < bound) :
    Text.numeral? 16 bound (cs ++ [c]) = some (16 * n + value) := by
  cases cs with
  | nil => cases hcs
  | cons first cs =>
      have hguard (tail : List Char) : (guard (!(first :: tail).isEmpty) : Option Unit) = some () :=
        rfl
      rw [Text.numeral?, hguard, Option.bind_eq_bind, Option.bind_some] at hcs
      rw [Text.numeral?, List.cons_append, hguard, Option.bind_eq_bind, Option.bind_some,
        ← List.cons_append, List.foldlM_append, hcs]
      simp [hc.hexValue?, hc.1, hbound, guard]

/-- Digits are read as the number that they write, if there is room for
it. -/
theorem HexNumeral.numeral?_eq {cs : List Char} {n bound : Nat} (h : HexNumeral cs n)
    (hbound : n < bound) : Text.numeral? 16 bound cs = some n := by
  induction h with
  | digit h => simp [Text.numeral?, h.hexValue?, h.1, hbound, guard]
  | snoc _ h ih => exact numeral?_snoc (ih (by omega)) h hbound

/-- The character with a code is read from the digits of the code. -/
theorem HexNumeral.charOfHex? {cs : List Char} {c : Char} (h : HexNumeral cs c.toNat) :
    charOfHex? cs = some [c] := by
  have hbound : c.toNat < Nat.pow 2 32 := c.val.toNat_lt
  have hvalid : c.toNat.isValidChar := c.valid
  rw [ScriptScout.charOfHex?, h.numeral?_eq hbound, Option.map_some, if_pos hvalid,
    Char.ofNat_toNat]

/-- Braces come off the digits of a code, if there are any. -/
theorem HexNumeral.stripBraces {cs : List Char} {n : Nat} (h : HexNumeral cs n) :
    stripBraces cs = cs ∧ stripBraces ('\x7b' :: (cs ++ ['\x7d'])) = cs := by
  have hopen (tail : List Char) : (cs ++ tail).dropWhile (· == '\x7b') = cs ++ tail := by
    obtain ⟨c, rest, rfl⟩ := List.exists_cons_of_ne_nil h.ne_nil
    have hc := (h.ne_brace c (List.mem_cons_self ..)).1
    simp [hc]
  have hclose : cs.reverse.dropWhile (· == '\x7d') = cs.reverse := by
    obtain ⟨c, rest, hcs⟩ := List.exists_cons_of_ne_nil (List.reverse_ne_nil_iff.mpr h.ne_nil)
    have hc := (h.ne_brace c (List.mem_reverse.mp (hcs ▸ List.mem_cons_self ..))).2
    simp [hcs, hc]
  have hbare := hopen []
  rw [List.append_nil] at hbare
  constructor
  · simp [ScriptScout.stripBraces, hbare, hclose]
  · simp [ScriptScout.stripBraces, hclose, hopen]

/-! ## One character behind a backslash -/

/-- The letters that stand for a control character, with what they
stand for. -/
def letterEscapes : List (Char × Char) :=
  [('n', '\n'), ('t', '\t'), ('r', '\r'), ('b', '\x08'), ('f', '\x0c'), ('v', '\x0b')]

/-- What a backslash at the end of a line is followed by. -/
def lineBreaks : List (List Char) :=
  [['\n'], ['\r'], ['\r', '\n'], ['\u2028'], ['\u2029']]

/-- Means the character something else than itself behind a backslash?
Eight and nine are no octal digits. -/
def hasMeaning (c : Char) : Bool :=
  "ntrbfvxu01234567\n\r\u2028\u2029".toList.contains c

/-- The escape sequences of a character. -/
inductive Spells : List Char → Char → Prop
  | letter {l c : Char} (h : (l, c) ∈ letterEscapes) : Spells ['\\', l] c
  | zero : Spells ['\\', '0'] '\x00'
  | itself {c : Char} (h : hasMeaning c = false) : Spells ['\\', c] c
  | byte {digits : List Char} {c : Char} (hlength : digits.length = 2)
      (h : HexNumeral digits c.toNat) : Spells ('\\' :: 'x' :: digits) c
  | unit {digits : List Char} {c : Char} (hlength : digits.length = 4)
      (h : HexNumeral digits c.toNat) : Spells ('\\' :: 'u' :: digits) c
  | codePoint {digits : List Char} {c : Char} (h : HexNumeral digits c.toNat) :
      Spells ('\\' :: 'u' :: '\x7b' :: (digits ++ ['\x7d'])) c

/-- A character is decoded from each of its escape sequences. -/
theorem Spells.unescape_eq {sequence : List Char} {c : Char} (h : Spells sequence c) :
    unescape sequence = [c] := by
  cases h with
  | letter h =>
      simp only [letterEscapes, List.mem_cons, Prod.mk.injEq, List.not_mem_nil, or_false] at h
      rcases h with ⟨rfl, rfl⟩ | ⟨rfl, rfl⟩ | ⟨rfl, rfl⟩ | ⟨rfl, rfl⟩ | ⟨rfl, rfl⟩ | ⟨rfl, rfl⟩ <;>
        rfl
  | zero => rfl
  | itself h =>
      have hne (d : Char) (hd : hasMeaning d = true) : c ≠ d := by
        rintro rfl
        rw [h] at hd
        cases hd
      simp [unescape, hne 'n' rfl, hne 't' rfl, hne 'r' rfl, hne 'b' rfl, hne 'f' rfl, hne 'v' rfl,
        hne '0' rfl, hne 'x' rfl, hne 'u' rfl, hne '\n' rfl, hne '\r' rfl, hne '\u2028' rfl,
        hne '\u2029' rfl]
  | byte _ h => simp [unescape, h.charOfHex?]
  | unit _ h => simp [unescape, h.stripBraces.1, h.charOfHex?]
  | codePoint h => simp [unescape, h.stripBraces.2, h.charOfHex?]

theorem unescape_lineBreak {lineBreak : List Char} (h : lineBreak ∈ lineBreaks) :
    unescape ('\\' :: lineBreak) = [] := by
  simp only [lineBreaks, List.mem_cons, List.not_mem_nil, or_false] at h
  rcases h with rfl | rfl | rfl | rfl | rfl <;> rfl

/-! ## A whole literal -/

/-- A piece of a string literal. -/
inductive Piece where
  | plain (text : List Char)
  | escape (sequence : List Char)

namespace Piece

def isEscape : Piece → Bool
  | plain _ => false
  | escape _ => true

/-- The piece as it stands in the literal. -/
def text : Piece → List Char
  | plain text => text
  | escape sequence => sequence

end Piece

/-- `Writes pieces s`: the pieces write the characters `s`. Plain text
writes itself, an escape sequence one character, and a backslash at the
end of a line nothing. -/
inductive Writes : List Piece → List Char → Prop
  | nil : Writes [] []
  | plain {pieces : List Piece} {s : List Char} (text : List Char) (h : Writes pieces s) :
      Writes (.plain text :: pieces) (text ++ s)
  | escape {sequence : List Char} {c : Char} {pieces : List Piece} {s : List Char}
      (hc : Spells sequence c) (h : Writes pieces s) : Writes (.escape sequence :: pieces) (c :: s)
  | continuation {lineBreak : List Char} {pieces : List Piece} {s : List Char}
      (hbreak : lineBreak ∈ lineBreaks) (h : Writes pieces s) :
      Writes (.escape ('\\' :: lineBreak) :: pieces) s

/-- What a piece that is an escape sequence or not comes to. -/
def cookPiece (isEscape : Bool) (text : List Char) : List Char :=
  if isEscape then unescape text else text

theorem Writes.cooked {pieces : List Piece} {s : List Char} (h : Writes pieces s) :
    pieces.flatMap (fun p => cookPiece p.isEscape p.text) = s := by
  induction h with
  | nil => rfl
  | plain text _ ih => rw [List.flatMap_cons, ih]; rfl
  | escape hc _ ih =>
      rw [List.flatMap_cons, ih, Piece.isEscape, Piece.text, cookPiece, if_pos rfl, hc.unescape_eq]
      rfl
  | continuation hbreak _ ih =>
      rw [List.flatMap_cons, ih, Piece.isEscape, Piece.text, cookPiece, if_pos rfl,
        unescape_lineBreak hbreak]
      rfl

namespace Lowering

/-- The tree of a string literal with these pieces between its quotes:
its named parts are the pieces, one by one. -/
structure LaysOut (source : String) (t : GrammarTree) (pieces : List Piece) : Prop where
  parts : (t.parts.filter (·.label.named)).map
      (fun p => (p.kind == "escape_sequence", (text source p).toList)) =
    pieces.map fun p => (p.isEscape, p.text)
  quoted : ∃ quote, (text source t).toList = quote :: (pieces.flatMap Piece.text ++ [quote])

theorem toList_cook {source : String} {t : GrammarTree}
    (h : t.parts.filter (·.label.named) ≠ []) : (cook source t).toList =
      (t.parts.filter (·.label.named)).flatMap fun p =>
        cookPiece (p.kind == "escape_sequence") (text source p).toList := by
  unfold cook
  split
  · contradiction
  · rw [String.toList_join, List.flatMap_map]
    congr 1
    funext p
    rw [cookPiece]
    split <;> simp

theorem cook_empty {source : String} {t : GrammarTree} {quote : Char}
    (h : t.parts.filter (·.label.named) = []) (htext : (text source t).toList = [quote, quote]) :
    cook source t = "" := by
  rw [cook, h, htext]
  rfl

/-- Whichever way a string is written, that string is the value of the
literal. -/
theorem cook_of_writes {source : String} {t : GrammarTree} {pieces : List Piece} {s : String}
    (hs : Writes pieces s.toList) (ht : LaysOut source t pieces) : cook source t = s := by
  have hcooked := hs.cooked
  by_cases hnone : t.parts.filter (·.label.named) = []
  · have hpieces : pieces = [] := by
      have hparts := ht.parts
      rw [hnone, List.map_nil] at hparts
      exact List.map_eq_nil_iff.mp hparts.symm
    subst hpieces
    obtain ⟨quote, hquoted⟩ := ht.quoted
    rw [cook_empty hnone hquoted]
    exact String.toList_inj.mp hcooked
  · refine String.toList_inj.mp ?_
    calc (cook source t).toList
        = ((t.parts.filter (·.label.named)).map fun p =>
            (p.kind == "escape_sequence", (text source p).toList)).flatMap
              fun q => cookPiece q.1 q.2 := by rw [toList_cook hnone, List.flatMap_map]
      _ = pieces.flatMap fun p => cookPiece p.isEscape p.text := by
          rw [ht.parts, List.flatMap_map]
      _ = s.toList := hcooked

/-- The literal in the text `"a\x4D\u{01f6Fa}\⏎\0"`, where `⏎` is the
end of a line. -/
def mixedLiteral : GrammarTree :=
  .node { kind := "string", span := ⟨0, 21⟩ } [
    .node { kind := "string_fragment", span := ⟨1, 2⟩ } [],
    .node { kind := "escape_sequence", span := ⟨2, 6⟩ } [],
    .node { kind := "escape_sequence", span := ⟨6, 16⟩ } [],
    .node { kind := "escape_sequence", span := ⟨16, 18⟩ } [],
    .node { kind := "escape_sequence", span := ⟨18, 20⟩ } []]

def mixedPieces : List Piece :=
  [.plain ['a'], .escape ['\\', 'x', '4', 'D'],
    .escape ['\\', 'u', '\x7b', '0', '1', 'f', '6', 'F', 'a', '\x7d'], .escape ['\\', '\n'],
    .escape ['\\', '0']]

theorem cook_of_writes_mixed :
    Writes mixedPieces "aM🛺\x00".toList
      ∧ LaysOut "\"a\\x4D\\u\x7b01f6Fa\x7d\\\n\\0\"" mixedLiteral mixedPieces
      ∧ cook "\"a\\x4D\\u\x7b01f6Fa\x7d\\\n\\0\"" mixedLiteral = "aM🛺\x00" := by
  have h0 : IsHexDigit '0' 0 := ⟨by decide, .inl rfl⟩
  have h1 : IsHexDigit '1' 1 := ⟨by decide, .inl rfl⟩
  have h4 : IsHexDigit '4' 4 := ⟨by decide, .inl rfl⟩
  have h6 : IsHexDigit '6' 6 := ⟨by decide, .inl rfl⟩
  have ha : IsHexDigit 'a' 10 := ⟨by decide, .inl rfl⟩
  have hD : IsHexDigit 'D' 13 := ⟨by decide, .inr rfl⟩
  have hf : IsHexDigit 'f' 15 := ⟨by decide, .inl rfl⟩
  have hF : IsHexDigit 'F' 15 := ⟨by decide, .inr rfl⟩
  have hbyte : HexNumeral ['4', 'D'] 'M'.toNat := (HexNumeral.digit h4).snoc hD
  have hcode : HexNumeral ['0', '1', 'f', '6', 'F', 'a'] '🛺'.toNat :=
    (((((HexNumeral.digit h0).snoc h1).snoc hf).snoc h6).snoc hF).snoc ha
  have hwrites : Writes mixedPieces "aM🛺\x00".toList :=
    .plain ['a'] (.escape (.byte rfl hbyte) (.escape (.codePoint hcode)
      (.continuation (by decide) (.escape .zero .nil))))
  have hlayout : LaysOut "\"a\\x4D\\u\x7b01f6Fa\x7d\\\n\\0\"" mixedLiteral mixedPieces :=
    ⟨rfl, '"', rfl⟩
  exact ⟨hwrites, hlayout, cook_of_writes hwrites hlayout⟩

end Lowering

end ScriptScout
