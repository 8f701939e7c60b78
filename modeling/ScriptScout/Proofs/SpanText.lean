import ScriptScout.Proofs.Text.Bytes

/-!
# Text under spans

The ends of a span count bytes of the UTF-8 form, and nothing is assumed
of them. Either they cut the source into three texts, and the text under
the span is the middle one, or they do not, and it is empty
(`text_exact`). They fail to for three reasons only: the span stops
before it starts, it stops behind the end of the source, or one of its
ends lies inside a character of several bytes.

Neighbouring slices make up a slice, and so the spans that tile a range
have the text of the range (`Tiles.slice?_eq`).
-/

namespace ScriptScout.Span

theorem text_of_slice? {s : Span} {source : String} {cs : List Char}
    (h : Text.slice? source.toList s.start s.stop = some cs) :
    s.text source = String.ofList cs := by
  rw [text, h]

/-! ## Tilings -/

/-- `Tiles start stop spans`: the first span starts at `start`, each
other one where the one before it stops, and the last stops at `stop`. -/
def Tiles : Nat → Nat → List Span → Prop
  | start, stop, [] => start = stop
  | start, stop, s :: spans => s.start = start ∧ s.start ≤ s.stop ∧ Tiles s.stop stop spans

/-- Spans that tile a range between characters have the text of the
range. -/
theorem Tiles.slice?_eq {source : String} {start stop : Nat} {spans : List Span}
    (h : Tiles start stop spans) (hstart : Text.IsBoundary source.toList start)
    (hstops : ∀ s ∈ spans, Text.IsBoundary source.toList s.stop) :
    Text.slice? source.toList start stop =
      some (String.join (spans.map (·.text source))).toList := by
  induction spans generalizing start with
  | nil =>
      obtain rfl : start = stop := h
      obtain ⟨xs, ys, hsource, hlength⟩ := hstart
      exact Text.slice?_eq_some_iff.mpr ⟨xs, ys, by simpa using hsource, hlength, by simpa⟩
  | cons s spans ih =>
      obtain ⟨rfl, hle, htiles⟩ := h
      obtain ⟨hstop, hstops⟩ := List.forall_mem_cons.mp hstops
      obtain ⟨cs, hcs⟩ := Text.exists_slice? hle hstart hstop
      rw [Text.slice?_append hcs (ih htiles hstop hstops), List.map_cons, text_of_slice? hcs,
        String.join_cons, String.toList_append, String.toList_ofList]

/-! ## The three parts of a source -/

/-- The span cuts `inner` out of the source, with `before` and `after` on
its two sides. -/
structure Cuts (s : Span) (source before inner after : String) : Prop where
  source_eq : source = before ++ inner ++ after
  start_eq : before.utf8ByteSize = s.start
  stop_eq : (before ++ inner).utf8ByteSize = s.stop

variable {s : Span} {source before inner after : String}

theorem slice?_eq_some_iff_cuts :
    Text.slice? source.toList s.start s.stop = some inner.toList ↔
      ∃ before after, s.Cuts source before inner after := by
  rw [Text.slice?_eq_some_iff]
  constructor
  · rintro ⟨xs, zs, hsource, hstart, hstop⟩
    refine ⟨String.ofList xs, String.ofList zs, String.toList_inj.mp ?_, ?_, ?_⟩
    · rw [hsource]
      simp only [String.toList_append, String.toList_ofList]
    · rw [← Text.byteLength_toList, String.toList_ofList, hstart]
    · rw [← Text.byteLength_toList, String.toList_append, String.toList_ofList, hstop]
  · rintro ⟨before, after, rfl, hstart, hstop⟩
    refine ⟨before.toList, after.toList, ?_, ?_, ?_⟩
    · simp only [String.toList_append]
    · rw [Text.byteLength_toList, hstart]
    · rw [← String.toList_append, Text.byteLength_toList, hstop]

theorem exists_cuts_of_slice? {cs : List Char}
    (h : Text.slice? source.toList s.start s.stop = some cs) :
    ∃ before inner after, s.Cuts source before inner after := by
  rw [← String.toList_ofList (l := cs), slice?_eq_some_iff_cuts] at h
  obtain ⟨before, after, hcuts⟩ := h
  exact ⟨before, _, after, hcuts⟩

theorem Cuts.text_eq (h : s.Cuts source before inner after) : s.text source = inner := by
  rw [text_of_slice? (slice?_eq_some_iff_cuts.mpr ⟨before, after, h⟩), String.ofList_toList]

theorem text_eq_empty (h : ¬ ∃ before inner after, s.Cuts source before inner after) :
    s.text source = "" := by
  cases hslice : Text.slice? source.toList s.start s.stop with
  | none => rw [text, hslice]
  | some cs => exact absurd (exists_cuts_of_slice? hslice) h

/-- A span cuts the source where its ends are positions of the source,
in order. -/
theorem exists_cuts_iff :
    (∃ before inner after, s.Cuts source before inner after) ↔
      s.start ≤ s.stop ∧ String.Pos.Raw.IsValid source ⟨s.start⟩
        ∧ String.Pos.Raw.IsValid source ⟨s.stop⟩ := by
  simp only [← Text.isBoundary_toList_iff]
  constructor
  · rintro ⟨before, inner, after, hcuts⟩
    have hle : s.start ≤ s.stop := by
      rw [← hcuts.start_eq, ← hcuts.stop_eq, String.utf8ByteSize_append]
      exact Nat.le_add_right ..
    exact ⟨hle, Text.isBoundary_of_slice? (slice?_eq_some_iff_cuts.mpr ⟨before, after, hcuts⟩)⟩
  · rintro ⟨hle, hstart, hstop⟩
    obtain ⟨cs, hcs⟩ := Text.exists_slice? hle hstart hstop
    exact exists_cuts_of_slice? hcs

/-- **The text under a span is what its ends cut out of the source,** to
the byte. Where they cut nothing out it is empty, and this is so for a
span that stops before it starts, behind the end of the source, or that
has an end inside a character. -/
theorem text_exact (s : Span) (source : String) :
    (∀ before inner after, s.Cuts source before inner after → s.text source = inner)
    ∧ ((¬ ∃ before inner after, s.Cuts source before inner after) → s.text source = "")
    ∧ ((¬ ∃ before inner after, s.Cuts source before inner after) ↔
      s.stop < s.start ∨ source.utf8ByteSize < s.stop
        ∨ Text.InsideChar source s.start ∨ Text.InsideChar source s.stop) := by
  refine ⟨fun _ _ _ hcuts => hcuts.text_eq, text_eq_empty, ?_⟩
  rw [exists_cuts_iff, not_and_or, not_and_or, Text.not_isValid_iff, Text.not_isValid_iff]
  -- a start behind the end of the source is not listed: the stop is there too, or before it
  grind

/-- Two characters of two and of four bytes, and the same source cut
inside the second. -/
theorem text_exact_wide :
    Cuts ⟨1, 7⟩ "aé😀b" "a" "é😀" "b" ∧ text ⟨1, 7⟩ "aé😀b" = "é😀"
    ∧ Text.InsideChar "aé😀b" 5 ∧ text ⟨1, 5⟩ "aé😀b" = ""
    ∧ text ⟨7, 1⟩ "aé😀b" = "" ∧ text ⟨1, 9⟩ "aé😀b" = "" := by
  have hcuts : Cuts ⟨1, 7⟩ "aé😀b" "a" "é😀" "b" := ⟨by decide, by decide, by decide⟩
  have hinside : Text.InsideChar "aé😀b" 5 := by decide
  obtain ⟨hmiddle, -⟩ := text_exact ⟨1, 7⟩ "aé😀b"
  have hnone (s : Span) (h : s.stop < s.start ∨ "aé😀b".utf8ByteSize < s.stop
      ∨ Text.InsideChar "aé😀b" s.start ∨ Text.InsideChar "aé😀b" s.stop) :
      s.text "aé😀b" = "" :=
    (text_exact s _).2.1 ((text_exact s _).2.2.mpr h)
  exact ⟨hcuts, hmiddle _ _ _ hcuts, hinside, hnone _ (by decide), hnone _ (by decide),
    hnone _ (by decide)⟩

end ScriptScout.Span
