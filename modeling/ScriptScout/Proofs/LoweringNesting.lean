import ScriptScout.Proofs.LoweredTree
import ScriptScout.Proofs.SourceOrder

/-!
# Spans of lowered trees

A grammar tree covers its parts in the order in which they stand in the
source. Lowering picks parts by their roles, sees through parentheses,
leaves comments out and takes arguments and substitutions out of their
lists, and what it builds still covers its children in their order
(`lower_nested`).

Order is handled as a property of lists of spans (`Span.Covers`), with
one lemma for each thing that lowering does to such a list: leaving
spans out, putting smaller spans in the place of spans, and putting the
spans of a list in the place of the list. Where the trees of a plan
come from is known from `Draws`.
-/

namespace ScriptScout

/-! ## Spans in order -/

namespace Span

/-- `s` lies inside `outer`. -/
structure Within (s outer : Span) : Prop where
  start : outer.start ≤ s.start
  stop : s.stop ≤ outer.stop

instance (s outer : Span) : Decidable (s.Within outer) :=
  decidable_of_iff (outer.start ≤ s.start ∧ s.stop ≤ outer.stop)
    ⟨fun ⟨hstart, hstop⟩ => ⟨hstart, hstop⟩, fun ⟨hstart, hstop⟩ => ⟨hstart, hstop⟩⟩

theorem Within.refl (s : Span) : s.Within s := ⟨Nat.le_refl _, Nat.le_refl _⟩

theorem Within.trans {s t u : Span} (hst : s.Within t) (htu : t.Within u) : s.Within u :=
  ⟨Nat.le_trans htu.start hst.start, Nat.le_trans hst.stop htu.stop⟩

/-- The spans lie inside `outer`, one behind the other. -/
structure Covers (outer : Span) (spans : List Span) : Prop where
  inside : ∀ s ∈ spans, s.Within outer
  apart : spans.Pairwise (·.stop ≤ ·.start)

instance (outer : Span) (spans : List Span) : Decidable (outer.Covers spans) :=
  decidable_of_iff ((∀ s ∈ spans, s.Within outer) ∧ spans.Pairwise (·.stop ≤ ·.start))
    ⟨fun ⟨hinside, hapart⟩ => ⟨hinside, hapart⟩, fun ⟨hinside, hapart⟩ => ⟨hinside, hapart⟩⟩

namespace Covers

variable {outer : Span} {spans inner : List Span}

theorem nil (outer : Span) : outer.Covers [] := ⟨by simp, .nil⟩

theorem sublist (h : outer.Covers spans) (hsub : inner.Sublist spans) : outer.Covers inner :=
  ⟨fun s hs => h.inside s (hsub.subset hs), h.apart.sublist hsub⟩

/-- Smaller spans in the place of spans, of which some may go. -/
theorem shrink_filterMap {α β : Type} {xs : List α} {f : α → Span} {pick : α → Option β}
    {g : β → Span} (h : outer.Covers (xs.map f))
    (hpick : ∀ x ∈ xs, ∀ y ∈ pick x, (g y).Within (f x)) :
    outer.Covers ((xs.filterMap pick).map g) := by
  constructor
  · rw [List.forall_mem_map]
    intro y hy
    obtain ⟨x, hx, hxy⟩ := List.mem_filterMap.mp hy
    exact (hpick x hx y hxy).trans (h.inside _ (List.mem_map_of_mem hx))
  · rw [List.pairwise_map, List.pairwise_filterMap]
    refine (List.pairwise_map.mp h.apart).imp_of_mem fun hx hx' hxx' y hy y' hy' => ?_
    exact Nat.le_trans (hpick _ hx y hy).stop (Nat.le_trans hxx' (hpick _ hx' y' hy').start)

/-- Smaller spans in the place of spans. -/
theorem shrink {α : Type} {xs : List α} {f g : α → Span} (h : outer.Covers (xs.map f))
    (hfg : ∀ x ∈ xs, (g x).Within (f x)) : outer.Covers (xs.map g) := by
  have hshrunk : outer.Covers ((xs.filterMap some).map g) :=
    h.shrink_filterMap fun x hx y hy => Option.some.inj hy ▸ hfg x hx
  rwa [List.filterMap_some] at hshrunk

/-- The spans that one span covers in the place of that span. -/
theorem expand {s t : Span} (h : outer.Covers [s, t]) (ht : t.Covers spans) :
    outer.Covers (s :: spans) := by
  have hs : s.Within outer := h.inside s (by simp)
  have htouter : t.Within outer := h.inside t (by simp)
  have hst : s.stop ≤ t.start := (List.pairwise_cons.mp h.apart).1 t (by simp)
  constructor
  · rw [List.forall_mem_cons]
    exact ⟨hs, fun u hu => (ht.inside u hu).trans htouter⟩
  · refine List.pairwise_cons.mpr ⟨fun u hu => ?_, ht.apart⟩
    exact Nat.le_trans hst (ht.inside u hu).start

end Covers

end Span

/-! ## Grammar trees in order -/

namespace GrammarTree

/-- The parts of a tree lie inside it, one behind the other, and those
in roles come in the order of the grammar. -/
structure PartsInOrder (t : GrammarTree) : Prop where
  covers : t.span.Covers (t.parts.map span)
  roles : ∀ rs ∈ Lowering.rolePairs, ∀ a ∈ t.inRole? rs.1, ∀ b ∈ t.inRole? rs.2,
    a.span.stop ≤ b.span.start

instance (t : GrammarTree) : Decidable t.PartsInOrder :=
  decidable_of_iff (t.span.Covers (t.parts.map span) ∧ ∀ rs ∈ Lowering.rolePairs,
      ∀ a ∈ t.inRole? rs.1, ∀ b ∈ t.inRole? rs.2, a.span.stop ≤ b.span.start)
    ⟨fun ⟨hcovers, hroles⟩ => ⟨hcovers, hroles⟩, fun ⟨hcovers, hroles⟩ => ⟨hcovers, hroles⟩⟩

/-- The tree is in order and so is all that it contains. -/
def WellNested (t : GrammarTree) : Prop :=
  ∀ u, t.Contains u → u.PartsInOrder

theorem Contains.eq_or_part {t u : GrammarTree} (h : t.Contains u) :
    u = t ∨ ∃ p ∈ t.parts, p.Contains u := by
  induction h with
  | self => exact .inl rfl
  | part _ hv ih =>
      rcases ih with rfl | ⟨p, hp, hpu⟩
      · exact .inr ⟨_, hv, .self⟩
      · exact .inr ⟨p, hp, hpu.part hv⟩

theorem forall_contains_node {holds : GrammarTree → Prop} {label : Label}
    {parts : List GrammarTree} : (∀ u, (node label parts).Contains u → holds u) ↔
      holds (node label parts) ∧ ∀ p ∈ parts, ∀ u, p.Contains u → holds u := by
  constructor
  · exact fun h => ⟨h _ .self, fun p hp u hu => h u ((Contains.part .self hp).trans hu)⟩
  · rintro ⟨hnode, hparts⟩ u hu
    rcases hu.eq_or_part with rfl | ⟨p, hp, hpu⟩
    · exact hnode
    · exact hparts p hp u hpu

namespace WellNested

variable {t u : GrammarTree}

theorem contained (h : t.WellNested) (hu : t.Contains u) : u.WellNested :=
  fun v hv => h v (hu.trans hv)

theorem parts (h : t.WellNested) : t.PartsInOrder := h t .self

theorem within (h : t.WellNested) (hu : t.Contains u) : u.span.Within t.span := by
  induction hu with
  | self => exact .refl _
  | part hu hv ih => exact ((h _ hu).covers.inside _ (List.mem_map_of_mem hv)).trans ih

theorem covers_namedParts (h : t.WellNested) : t.span.Covers (t.namedParts.map span) :=
  h.parts.covers.sublist (List.filter_sublist.map span)

theorem covers_roles (h : t.WellNested) {r s : Role} {a b : GrammarTree}
    (hrs : (r, s) ∈ Lowering.rolePairs) (ha : t.inRole? r = some a) (hb : t.inRole? s = some b) :
    t.span.Covers [a.span, b.span] := by
  constructor
  · simp [h.within (contains_inRole ha), h.within (contains_inRole hb)]
  · have hab : a.span.stop ≤ b.span.start := h.parts.roles _ hrs a ha b hb
    simp [hab]

end WellNested

end GrammarTree

namespace Lowering

variable {source : String} {t : GrammarTree} {depth : Nat}

theorem covers_templateExpressions (h : t.WellNested) :
    t.span.Covers ((templateExpressions t).map GrammarTree.span) := by
  have hsubs : t.span.Covers ((substitutions t).map GrammarTree.span) :=
    h.covers_namedParts.sublist (List.filter_sublist.map _)
  refine hsubs.shrink_filterMap fun s hs u hu => ?_
  have hcontains : t.Contains s := GrammarTree.contains_namedPart (List.mem_filter.mp hs).1
  refine (h.contained hcontains).within ?_
  exact GrammarTree.contains_namedPart (List.mem_of_mem_head? hu)

/-- The trees that become the children of a node are in order. -/
theorem Draws.covers (h : t.WellNested) {ts : List GrammarTree} (hts : Draws t ts) :
    t.span.Covers (ts.map GrammarTree.span) := by
  cases hts with
  | named hts => exact h.covers_namedParts.sublist (hts.map _)
  | role ha =>
      have hwithin := h.within (GrammarTree.contains_inRole ha)
      exact ⟨List.forall_mem_singleton.mpr hwithin, List.pairwise_singleton _ _⟩
  | roles hrs ha hb => exact h.covers_roles hrs ha hb
  | arguments hrs ha hb =>
      have hargs := h.contained (GrammarTree.contains_inRole hb)
      exact (h.covers_roles hrs ha hb).expand hargs.covers_namedParts
  | substitutions => exact covers_templateExpressions h

/-! ## Lowered trees in order -/

/-- A lowered node has the span of a tree. -/
theorem span_lowerAt (source : String) (t : GrammarTree) (depth : Nat) :
    ∃ u, t.Contains u ∧ (lowerAt source t depth).span = u.span := by
  cases hmove : move source t depth with
  | finish node => exact ⟨t, .self, by rw [lowerAt_finish hmove, (move_finish_spec hmove).1]⟩
  | enter inner =>
      have := move_enter_size hmove
      obtain ⟨u, hu, hspan⟩ := span_lowerAt source inner depth
      have hinner := GrammarTree.contains_namedPart (move_enter_spec hmove)
      exact ⟨u, hinner.trans hu, by rw [lowerAt_enter hmove, hspan]⟩
  | expand p => exact ⟨t, .self, by rw [lowerAt_expand hmove, assemble_span]⟩
termination_by sizeOf t

theorem within_lowerAt (h : t.WellNested) (source : String) (depth : Nat) :
    (lowerAt source t depth).span.Within t.span := by
  obtain ⟨u, hu, hspan⟩ := span_lowerAt source t depth
  rw [hspan]
  exact h.within hu

/-- Trees that are in order are still so when they are lowered. -/
theorem covers_lowered {outer : Span} {ts : List GrammarTree}
    (hts : outer.Covers (ts.map GrammarTree.span)) (hnested : ∀ u ∈ ts, u.WellNested)
    (source : String) (depth : Nat) :
    outer.Covers ((ts.map (lowerAt source · depth)).map Node.span) := by
  rw [List.map_map]
  exact hts.shrink fun u hu => within_lowerAt (hnested u hu) source depth

theorem covers_expand (h : t.WellNested) {p : Plan} (hp : Layout source t depth p) :
    t.span.Covers ((assemble t p.shape
      (p.parts.map fun q => lowerAt source q.1 q.2)).children.map Node.span) := by
  cases hp with
  | @level shape ts hshape hts =>
      have hlowered := covers_lowered (hts.covers h) (fun u hu => h.contained (hts.contains hu))
        source (depth + 1)
      rw [lowerAt_atDepth]
      exact hlowered.sublist ((assemble_children hshape t _).map _)
  | @tagged tag template htag htemplate =>
      have hroles := h.covers_roles (by decide) htag htemplate
      have hwithin := within_lowerAt (h.contained (GrammarTree.contains_inRole htag)) source
        (depth + 1)
      rw [assemble_tagged]
      -- only the tag is lowered further, so only its span gets smaller
      have hpairs : t.span.Covers ([(tag.span, (lowerAt source tag (depth + 1)).span),
        (template.span, template.span)].map Prod.fst) := hroles
      refine hpairs.shrink (g := Prod.snd) fun q hq => ?_
      rcases List.mem_cons.mp hq with rfl | hq
      · exact hwithin
      · obtain rfl := List.mem_singleton.mp hq
        exact .refl _
  | object =>
      rw [assemble_planObject, Node.children, List.map_map]
      refine h.covers_namedParts.shrink fun u hu => ?_
      have hwithin := within_lowerAt (h.contained (GrammarTree.contains_namedPart hu)) source
      rw [Function.comp_apply]
      split
      · exact hwithin (depth + 2)
      · exact hwithin (depth + 1)

/-- A lowered node covers its children. -/
theorem covers_lowerAt {t : GrammarTree} (h : t.WellNested) (source : String) (depth : Nat) :
    (lowerAt source t depth).span.Covers ((lowerAt source t depth).children.map Node.span) := by
  cases hmove : move source t depth with
  | finish node =>
      rw [lowerAt_finish hmove, (move_finish_spec hmove).2]
      exact .nil _
  | enter inner =>
      have := move_enter_size hmove
      have hinner := GrammarTree.contains_namedPart (move_enter_spec hmove)
      rw [lowerAt_enter hmove]
      exact covers_lowerAt (h.contained hinner) source depth
  | expand p =>
      rw [lowerAt_expand hmove, assemble_span]
      exact covers_expand h (move_expand_spec hmove).2
termination_by sizeOf t

theorem children_lowerAt_of_isShorthand (h : isShorthand t = true) (source : String)
    (depth : Nat) : (lowerAt source t depth).children = [] := by
  have hkind : t.kind = "shorthand_property_identifier" := beq_iff_eq.mp h
  cases hmove : move source t depth with
  | finish node => rw [lowerAt_finish hmove, (move_finish_spec hmove).2]
  | enter inner =>
      simp only [move, hkind, leaf?] at hmove
      split at hmove <;> cases hmove
  | expand p =>
      simp only [move, hkind, leaf?] at hmove
      split at hmove <;> cases hmove

end Lowering

namespace Node

/-- A node has its children inside it, one behind the other; only the
property of a name that stands alone has twice the same leaf. -/
structure ChildrenInOrder (n : Node) : Prop where
  inside : ∀ c ∈ n.children, c.span.Within n.span
  apart : n.children.Pairwise (·.span.stop ≤ ·.span.start)
    ∨ ∃ leaf, n = .property leaf.span leaf leaf true ∧ leaf.children = []

theorem ChildrenInOrder.of_covers {n : Node} (h : n.span.Covers (n.children.map span)) :
    n.ChildrenInOrder :=
  ⟨List.forall_mem_map.mp h.inside, .inl (List.pairwise_map.mp h.apart)⟩

theorem ChildrenInOrder.partsInOrder {n : Node} (h : n.ChildrenInOrder)
    (hforward : n.span.start ≤ n.span.stop) : n.PartsInOrder where
  forward := hforward
  inside c hc := ⟨(h.inside c hc).start, (h.inside c hc).stop⟩
  apart := by
    rcases h.apart with hapart | ⟨leaf, rfl, hleaf⟩
    · exact .inl hapart.isChain
    · exact .inr ⟨hleaf, hleaf, rfl⟩

end Node

namespace Lowering

variable {source : String} {t : GrammarTree} {depth : Nat}

/-- Every node of a lowered tree has the span of a tree. -/
theorem span_occursAt_lower {n : Node} (h : (lower source t).OccursAt depth n) :
    ∃ u, t.Contains u ∧ n.span = u.span := by
  rcases occursAt_lower h with ⟨u, hu, rfl⟩ | ⟨_, _, -, -, -, @⟨_, _, u, hu⟩ | @⟨_, _, u, hu, -⟩⟩
  · obtain ⟨v, hv, hspan⟩ := span_lowerAt source u depth
    exact ⟨v, hu.trans hv, hspan⟩
  · exact ⟨u, hu, rfl⟩
  · obtain ⟨v, hv, hspan⟩ := span_lowerAt source u (depth + 1)
    exact ⟨v, hu.trans hv, hspan⟩

theorem PutIn.childrenInOrder (h : t.WellNested) {parent n : Node}
    (hput : PutIn source t depth parent n) : n.ChildrenInOrder := by
  cases hput with
  | @template _ _ u hu =>
      have hnested := h.contained hu
      refine .of_covers (covers_lowered (covers_templateExpressions hnested) (fun v hv => ?_) _ _)
      exact hnested.contained (contains_templateExpression hv)
  | @property _ _ u hu hshort =>
      refine ⟨fun c hc => ?_, .inr ⟨_, rfl, children_lowerAt_of_isShorthand hshort source _⟩⟩
      rw [mem_children_property.mp hc]
      exact .refl _

/-- What is lowered from a tree in order covers its children in their
order. If no span of the tree runs backwards, the lowered tree is one
in which findings come in source order. -/
theorem lower_nested (source : String) (t : GrammarTree) (h : t.WellNested) :
    (∀ depth n, (lower source t).OccursAt depth n → n.ChildrenInOrder)
      ∧ ((∀ u, t.Contains u → u.span.start ≤ u.span.stop) → (lower source t).WellNested) := by
  have hordered : ∀ depth n, (lower source t).OccursAt depth n → n.ChildrenInOrder := by
    intro depth n hn
    rcases occursAt_lower hn with ⟨u, hu, rfl⟩ | ⟨_, _, -, -, -, hput⟩
    · exact .of_covers (covers_lowerAt (h.contained hu) source depth)
    · exact hput.childrenInOrder h
  refine ⟨hordered, fun hforward depth n hn => ?_⟩
  obtain ⟨u, hu, hspan⟩ := span_occursAt_lower hn
  exact (hordered depth n hn).partsInOrder (hspan ▸ hforward u hu)

/-! ## A call with a comment, parentheses and a lone name -/

/-- The tree of `f(/**/(a),{b})`. -/
def callTree : GrammarTree :=
  .node { kind := "call_expression", span := ⟨0, 14⟩ }
    [.node { kind := "identifier", span := ⟨0, 1⟩, role := some .function } [],
      .node { kind := "arguments", span := ⟨1, 14⟩, role := some .arguments }
        [.node { kind := "comment", span := ⟨2, 6⟩ } [],
          .node { kind := "parenthesized_expression", span := ⟨6, 9⟩ }
            [.node { kind := "identifier", span := ⟨7, 8⟩ } []],
          .node { kind := "object", span := ⟨10, 13⟩ }
            [.node { kind := "shorthand_property_identifier", span := ⟨11, 12⟩ } []]]]

theorem lower_nested_call :
    callTree.WellNested ∧ (∀ u, callTree.Contains u → u.span.start ≤ u.span.stop)
      ∧ (lower "f(/**/(a),{b})" callTree).ChildrenInOrder
      ∧ (lower "f(/**/(a),{b})" callTree).WellNested := by
  have hnested : callTree.WellNested := by
    simp only [callTree, GrammarTree.WellNested, GrammarTree.forall_contains_node,
      List.forall_mem_cons, List.not_mem_nil, false_implies, implies_true, and_true]
    decide
  have hforward : ∀ u, callTree.Contains u → u.span.start ≤ u.span.stop := by
    simp only [callTree, GrammarTree.forall_contains_node, List.forall_mem_cons,
      List.not_mem_nil, false_implies, implies_true, and_true]
    decide
  obtain ⟨hordered, hlowered⟩ := lower_nested "f(/**/(a),{b})" callTree hnested
  exact ⟨hnested, hforward, hordered 0 _ .root, hlowered hforward⟩

end Lowering

end ScriptScout
