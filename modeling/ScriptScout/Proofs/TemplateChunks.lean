import ScriptScout.Proofs.LoweringNesting
import ScriptScout.Proofs.SpanText

/-!
# Templates in chunks

A template is kept as the chunks of text between its substitutions.
Nothing is lost that way, and nothing is kept twice: chunks and
substitutions in turn tile what stands between the backticks
(`tiles_quasis`), so that their texts, put together again, are the
template (`template_lossless`).
-/

namespace ScriptScout.Lowering

/-- One of the first list, then one of the second, and so on. -/
def alternate {α : Type} : List α → List α → List α
  | [], _ => []
  | x :: xs, [] => x :: xs
  | x :: xs, y :: ys => x :: y :: alternate xs ys

theorem map_alternate {α β : Type} (f : α → β) (xs ys : List α) :
    (alternate xs ys).map f = alternate (xs.map f) (ys.map f) := by
  fun_induction alternate xs ys with
  | case1 => rfl
  | case2 => rfl
  | case3 x xs y ys ih => rw [List.map_cons, List.map_cons, ih]; rfl

theorem mem_alternate {α : Type} {xs ys : List α} {a : α} (h : a ∈ alternate xs ys) :
    a ∈ xs ∨ a ∈ ys := by
  fun_induction alternate xs ys with
  | case1 => cases h
  | case2 => exact .inl h
  | case3 x xs y ys ih =>
      simp only [List.mem_cons] at h ⊢
      grind

/-! ## The chunks between substitutions -/

variable {source : String} {start stop : Nat} {subs : List GrammarTree}

theorem length_quasis (source : String) (start stop : Nat) (subs : List GrammarTree) :
    (quasis source start stop subs).length = subs.length + 1 := by
  induction subs generalizing start with
  | nil => rfl
  | cons s subs ih => rw [quasis, List.length_cons, ih, List.length_cons]

theorem raw_of_mem_quasis {q : Quasi} (h : q ∈ quasis source start stop subs) :
    q.raw = q.span.text source := by
  induction subs generalizing start with
  | nil =>
      obtain rfl := List.mem_singleton.mp h
      rfl
  | cons s subs ih =>
      rcases List.mem_cons.mp h with rfl | h
      · rfl
      · exact ih h

/-- The substitutions lie in the range, one behind the other. -/
structure InOrder (start stop : Nat) (subs : List GrammarTree) : Prop where
  covers : Span.Covers ⟨start, stop⟩ (subs.map GrammarTree.span)
  proper : ∀ s ∈ subs, s.span.start ≤ s.span.stop

/-- The first substitution lies in the range, and the others behind
it. -/
theorem InOrder.of_cons {s : GrammarTree} (h : InOrder start stop (s :: subs)) :
    start ≤ s.span.start ∧ s.span.start ≤ s.span.stop ∧ s.span.stop ≤ stop
      ∧ InOrder s.span.stop stop subs := by
  obtain ⟨⟨hinside, hapart⟩, hproper⟩ := h
  rw [List.map_cons, List.forall_mem_cons] at hinside
  rw [List.map_cons, List.pairwise_cons] at hapart
  rw [List.forall_mem_cons] at hproper
  exact ⟨hinside.1.start, hproper.1, hinside.1.stop,
    ⟨fun u hu => ⟨hapart.1 u hu, (hinside.2 u hu).stop⟩, hapart.2⟩, hproper.2⟩

/-- Chunks and substitutions in turn tile the range. -/
theorem tiles_quasis (source : String) (hle : start ≤ stop) (h : InOrder start stop subs) :
    Span.Tiles start stop (alternate ((quasis source start stop subs).map Quasi.span)
      (subs.map GrammarTree.span)) := by
  induction subs generalizing start with
  | nil => exact ⟨rfl, Nat.le_max_right .., Nat.max_eq_left hle⟩
  | cons s subs ih =>
      obtain ⟨hbefore, hproper, hinside, hrest⟩ := h.of_cons
      refine ⟨rfl, Nat.le_max_right .., (Nat.max_eq_left hbefore).symm, hproper, ih hinside hrest⟩

/-- A chunk stops where a substitution starts, or at the end. -/
theorem stop_of_mem_quasis (hle : start ≤ stop) (h : InOrder start stop subs) {q : Quasi}
    (hq : q ∈ quasis source start stop subs) :
    q.span.stop = stop ∨ ∃ s ∈ subs, q.span.stop = s.span.start := by
  induction subs generalizing start with
  | nil =>
      obtain rfl := List.mem_singleton.mp hq
      exact .inl (Nat.max_eq_left hle)
  | cons s subs ih =>
      obtain ⟨hbefore, -, hinside, hrest⟩ := h.of_cons
      rcases List.mem_cons.mp hq with rfl | hq
      · exact .inr ⟨s, List.mem_cons_self .., Nat.max_eq_left hbefore⟩
      · rcases ih hinside hrest hq with hstop | ⟨u, hu, hstop⟩
        · exact .inl hstop
        · exact .inr ⟨u, List.mem_cons_of_mem _ hu, hstop⟩

/-- So their texts make up the text of the range. -/
theorem slice?_quasis (hle : start ≤ stop) (h : InOrder start stop subs)
    (hstart : Text.IsBoundary source.toList start) (hstop : Text.IsBoundary source.toList stop)
    (hsubs : ∀ s ∈ subs,
      Text.IsBoundary source.toList s.span.start ∧ Text.IsBoundary source.toList s.span.stop) :
    Text.slice? source.toList start stop = some (String.join (alternate
      ((quasis source start stop subs).map Quasi.raw) (subs.map (text source)))).toList := by
  have hstops : ∀ s ∈ alternate ((quasis source start stop subs).map Quasi.span)
      (subs.map GrammarTree.span), Text.IsBoundary source.toList s.stop := by
    intro s hs
    rcases mem_alternate hs with hs | hs
    · obtain ⟨q, hq, rfl⟩ := List.mem_map.mp hs
      rcases stop_of_mem_quasis hle h hq with hend | ⟨u, hu, hend⟩
      · rwa [hend]
      · rw [hend]
        exact (hsubs u hu).1
    · obtain ⟨u, hu, rfl⟩ := List.mem_map.mp hs
      exact (hsubs u hu).2
  have hraw : (quasis source start stop subs).map Quasi.raw =
      (quasis source start stop subs).map fun q => q.span.text source :=
    List.map_congr_left fun q hq => raw_of_mem_quasis hq
  rw [(tiles_quasis source hle h).slice?_eq hstart hstops, map_alternate, List.map_map,
    List.map_map, hraw]
  rfl

/-! ## The whole template -/

theorem templateQuasis_eq {t : GrammarTree} (h : t.span.start + 2 ≤ t.span.stop) :
    templateQuasis source t =
      quasis source (t.span.start + 1) (t.span.stop - 1) (substitutions t) := by
  have hstart : min (t.span.start + 1) t.span.stop = t.span.start + 1 := by omega
  have hstop : max (t.span.stop - 1) (t.span.start + 1) = t.span.stop - 1 := by omega
  simp only [templateQuasis, hstart, hstop]

/-- A template between backticks with its substitutions in order. -/
structure IsTemplate (source : String) (t : GrammarTree) (content : List Char) : Prop where
  quoted : (text source t).toList = '\x60' :: (content ++ ['\x60'])
  inOrder : InOrder (t.span.start + 1) (t.span.stop - 1) (substitutions t)
  boundaries : ∀ s ∈ substitutions t,
    Text.IsBoundary source.toList s.span.start ∧ Text.IsBoundary source.toList s.span.stop

/-- The content of a template lies inside the two backticks. -/
theorem slice?_content {t : GrammarTree} {content : List Char}
    (h : (text source t).toList = '\x60' :: (content ++ ['\x60'])) :
    t.span.start + 2 ≤ t.span.stop
      ∧ Text.slice? source.toList (t.span.start + 1) (t.span.stop - 1) = some content := by
  cases hslice : Text.slice? source.toList t.span.start t.span.stop with
  | none => simp [text, Span.text, hslice] at h
  | some cs =>
      rw [text, Span.text_of_slice? hslice, String.toList_ofList] at h
      subst h
      obtain ⟨xs, zs, hsource, hstart, hstop⟩ := Text.slice?_eq_some_iff.mp hslice
      have htick : '\x60'.utf8Size = 1 := rfl
      simp only [Text.byteLength_append, Text.byteLength_cons, Text.byteLength_nil, htick] at hstop
      refine ⟨by omega, Text.slice?_eq_some_iff.mpr ⟨xs ++ ['\x60'], '\x60' :: zs, ?_, ?_, ?_⟩⟩
      · simpa using hsource
      · simp only [Text.byteLength_append, Text.byteLength_cons, Text.byteLength_nil, htick]
        omega
      · simp only [Text.byteLength_append, Text.byteLength_cons, Text.byteLength_nil, htick]
        omega

/-- No character of a template is lost between its chunks and its
substitutions, and none is in two of them. -/
theorem template_lossless {source : String} {t : GrammarTree} {content : List Char}
    (h : IsTemplate source t content) :
    (templateQuasis source t).length = (substitutions t).length + 1
      ∧ text source t = "\x60" ++ String.join (alternate ((templateQuasis source t).map Quasi.raw)
        ((substitutions t).map (text source))) ++ "\x60"
      ∧ Span.Tiles (t.span.start + 1) (t.span.stop - 1)
        (alternate ((templateQuasis source t).map Quasi.span)
          ((substitutions t).map GrammarTree.span))
      ∧ ∀ q ∈ templateQuasis source t, q.raw = q.span.text source := by
  obtain ⟨hwidth, hcontent⟩ := slice?_content h.quoted
  obtain ⟨hstart, hstop⟩ := Text.isBoundary_of_slice? hcontent
  have hle : t.span.start + 1 ≤ t.span.stop - 1 := by omega
  rw [templateQuasis_eq hwidth]
  refine ⟨length_quasis .., ?_, tiles_quasis source hle h.inOrder, fun q hq => raw_of_mem_quasis hq⟩
  rw [slice?_quasis hle h.inOrder hstart hstop h.boundaries, Option.some.injEq] at hcontent
  refine String.toList_inj.mp ?_
  rw [h.quoted, ← hcontent, String.toList_append, String.toList_append]
  rfl

/-- The template in the text ``f(`é${a}${b}x`)``. -/
def adjacentSubstitutions : GrammarTree :=
  .node { kind := "template_string", span := ⟨2, 15⟩ } [
    .node { kind := "string_fragment", span := ⟨3, 5⟩ } [],
    .node { kind := "template_substitution", span := ⟨5, 9⟩ }
      [.node { kind := "identifier", span := ⟨7, 8⟩ } []],
    .node { kind := "template_substitution", span := ⟨9, 13⟩ }
      [.node { kind := "identifier", span := ⟨11, 12⟩ } []],
    .node { kind := "string_fragment", span := ⟨13, 14⟩ } []]

theorem template_lossless_adjacent :
    IsTemplate "f(`é${a}${b}x`)" adjacentSubstitutions "é${a}${b}x".toList
      ∧ templateQuasis "f(`é${a}${b}x`)" adjacentSubstitutions =
        [⟨⟨3, 5⟩, "é"⟩, ⟨⟨9, 9⟩, ""⟩, ⟨⟨13, 14⟩, "x"⟩]
      ∧ Span.Tiles 3 14 [⟨3, 5⟩, ⟨5, 9⟩, ⟨9, 9⟩, ⟨9, 13⟩, ⟨13, 14⟩] := by
  have h : IsTemplate "f(`é${a}${b}x`)" adjacentSubstitutions "é${a}${b}x".toList :=
    ⟨rfl, ⟨by decide, by decide⟩, by decide⟩
  exact ⟨h, rfl, (template_lossless h).2.2.1⟩

end ScriptScout.Lowering
