import ScriptScout.Proofs.LoweredTree

/-!
# How deep lowered trees are

Lowering cuts off what is deeper than `maxDepth`: a tree that would
become a node below that depth becomes a node without children. The
depth is counted for the trees that are lowered, and so it misses the
nodes that have no tree of their own. The template behind a tag and the
property of a name that stands alone are there even at the first depth
that is cut off, with the cut-off nodes one level below them.

`lower_depth_capped` says that this is all: no node is more than two
levels too deep, and the only ones that are no bare nodes are these
links. So the cap is kept to the letter exactly if there is no link
below a node at `maxDepth`.
-/

namespace ScriptScout

namespace Node

/-- A node of which only kind and span are left. -/
def IsBare (n : Node) : Prop := ∃ span kind, n = .other span kind []

/-- A node that only links another node with what is below it: the
template behind a tag, or the property of a name that stands alone. -/
inductive IsLinkOf : Node → Node → Prop
  | template {span inner : Span} {tag : Node} {quasis : List Quasi} {expressions : List Node} :
      IsLinkOf (.tagged span tag (.template inner quasis expressions))
        (.template inner quasis expressions)
  | property {span : Span} {properties : List Node} {leaf : Node}
      (hmem : .property leaf.span leaf leaf true ∈ properties) :
      IsLinkOf (.object span properties) (.property leaf.span leaf leaf true)

theorem IsLinkOf.mem {parent n : Node} (h : parent.IsLinkOf n) : n ∈ parent.children := by
  cases h with
  | template => simp [children]
  | property hmem => exact hmem

theorem IsLinkOf.not_isBare {parent n : Node} (h : parent.IsLinkOf n) : ¬ n.IsBare := by
  rintro ⟨span, kind, rfl⟩
  cases h

end Node

namespace Lowering

variable {source : String} {t : GrammarTree} {depth : Nat}

theorem lowerAt_of_deep (h : maxDepth < depth) : lowerAt source t depth = other t [] :=
  lowerAt_finish (move_of_deep h)

theorem isBare_lowerAt (h : maxDepth < depth) : (lowerAt source t depth).IsBare :=
  ⟨t.span, t.kind, lowerAt_of_deep h⟩

theorem PutIn.isLinkOf {parent n : Node} (h : PutIn source t depth parent n) :
    parent.IsLinkOf n := by
  cases h with
  | template => exact .template
  | property _ _ hmem => exact .property hmem

/-- A node below `maxDepth` is bare, or else a link of a node at
`maxDepth` with only bare nodes below it. -/
theorem bare_or_link {n : Node} (h : (lower source t).OccursAt depth n)
    (hdeep : maxDepth < depth) : n.IsBare ∨ depth = maxDepth + 1
      ∧ (∃ parent, (lower source t).OccursAt maxDepth parent ∧ parent.IsLinkOf n)
      ∧ ∀ c ∈ n.children, c.IsBare := by
  rcases occursAt_lower h with ⟨u, -, rfl⟩ | ⟨above, parent, rfl, habove, hparent, hput⟩
  · exact .inl (isBare_lowerAt hdeep)
  · obtain rfl : above = maxDepth := by omega
    refine .inr ⟨rfl, ⟨parent, hparent, hput.isLinkOf⟩, fun c hc => ?_⟩
    obtain ⟨u, -, rfl⟩ := hput.child hc
    exact isBare_lowerAt (by omega)

/-- A node that is two levels too deep has nothing below it. -/
theorem depth_le {n : Node} (h : (lower source t).OccursAt depth n) : depth ≤ maxDepth + 2 := by
  cases h with
  | root => omega
  | @child above n c hn hc =>
      by_cases hdeep : maxDepth < above
      · rcases bare_or_link hn hdeep with ⟨span, kind, rfl⟩ | ⟨rfl, -⟩
        · cases hc
        · exact Nat.le_refl _
      · omega

/-- How far the cap on the depth holds, and when it holds to the
letter. -/
theorem lower_depth_capped (source : String) (t : GrammarTree) :
    (∀ depth n, (lower source t).OccursAt depth n → depth ≤ maxDepth + 2
      ∧ (maxDepth < depth → n.IsBare ∨ depth = maxDepth + 1
        ∧ (∃ parent, (lower source t).OccursAt maxDepth parent ∧ parent.IsLinkOf n)
        ∧ ∀ c ∈ n.children, c.IsBare))
    ∧ ((∀ depth n, (lower source t).OccursAt depth n → maxDepth < depth → n.IsBare) ↔
      ∀ parent n, (lower source t).OccursAt maxDepth parent → ¬ parent.IsLinkOf n) := by
  refine ⟨fun depth n h => ⟨depth_le h, bare_or_link h⟩, fun hcap parent n hparent hlink => ?_,
    fun hnone depth n h hdeep => ?_⟩
  · exact hlink.not_isBare (hcap _ n (hparent.child hlink.mem) (Nat.lt_succ_self _))
  · rcases bare_or_link h hdeep with hbare | ⟨-, ⟨parent, hparent, hlink⟩, -⟩
    · exact hbare
    · exact absurd hlink (hnone parent n hparent)

/-! ## At the edge -/

/-- Kinds of nodes that are lowered with all that is named in them
directly below. -/
def wrapperKinds : List String := ["program", "expression_statement", "array"]

/-- A tree inside nodes of which each has nothing else in it, the
outermost one first. -/
def wrapped (t : GrammarTree) : List (String × Span) → GrammarTree
  | [] => t
  | (kind, span) :: inside => .node { kind, span } [wrapped t inside]

theorem namedParts_wrapper {kind : String} {span : Span} {wrappers : List (String × Span)}
    (hkinds : ∀ w ∈ wrappers, w.1 ∈ wrapperKinds)
    (ht : (t.label.named && !t.isComment) = true) :
    (wrapped t ((kind, span) :: wrappers)).namedParts = [wrapped t wrappers] := by
  refine List.filter_eq_self.mpr (List.forall_mem_singleton.mpr ?_)
  cases wrappers with
  | nil => exact ht
  | cons w wrappers =>
      obtain ⟨kind, span⟩ := w
      have hkind : kind ∈ wrapperKinds := hkinds _ (List.mem_cons_self ..)
      simp only [wrapperKinds, List.mem_cons, List.not_mem_nil, or_false] at hkind
      rcases hkind with rfl | rfl | rfl <;> rfl

theorem children_wrapper {kind : String} {span : Span} {u : GrammarTree}
    (hkind : kind ∈ wrapperKinds) (hnamed : (GrammarTree.node { kind, span } [u]).namedParts = [u])
    (hdepth : depth ≤ maxDepth) : (lowerAt source (.node { kind, span } [u]) depth).children =
      [lowerAt source u (depth + 1)] := by
  obtain ⟨shape, hmove, hshape⟩ : ∃ shape, move source (.node { kind, span } [u]) depth =
      .expand ⟨shape, [(u, depth + 1)]⟩ ∧ (shape = .other ∨ shape = .array) := by
    have hshallow : ¬ depth > maxDepth := Nat.not_lt.mpr hdepth
    simp only [wrapperKinds, List.mem_cons, List.not_mem_nil, or_false] at hkind
    rcases hkind with rfl | rfl | rfl <;>
      simp [move, hshallow, GrammarTree.kind, GrammarTree.label, leaf?, plan, planOther, hnamed,
        atDepth]
  rw [lowerAt_expand hmove]
  rcases hshape with rfl | rfl <;> rfl

/-- What is wrapped stands as deep as there are wrappers. -/
theorem occursAt_wrapped {root : Node} {wrappers : List (String × Span)}
    (hkinds : ∀ w ∈ wrappers, w.1 ∈ wrapperKinds)
    (ht : (t.label.named && !t.isComment) = true) (hdepth : depth + wrappers.length ≤ maxDepth + 1)
    (h : root.OccursAt depth (lowerAt source (wrapped t wrappers) depth)) :
    root.OccursAt (depth + wrappers.length) (lowerAt source t (depth + wrappers.length)) := by
  induction wrappers generalizing depth with
  | nil => exact h
  | cons w wrappers ih =>
      obtain ⟨kind, span⟩ := w
      obtain ⟨hkind, hkinds⟩ := List.forall_mem_cons.mp hkinds
      rw [List.length_cons] at hdepth ⊢
      rw [Nat.add_comm wrappers.length, ← Nat.add_assoc]
      refine ih hkinds (by omega) (h.child ?_)
      rw [wrapped, children_wrapper hkind (namedParts_wrapper hkinds ht) (by omega)]
      exact List.mem_singleton_self _

/-- A text inside 510 pairs of brackets. -/
def bracketText (text : String) : String :=
  String.ofList (List.replicate 510 '[') ++ text ++ String.ofList (List.replicate 510 ']')

/-- The nodes around an expression of `width` bytes inside 510 pairs of
brackets. -/
def brackets (width : Nat) : List (String × Span) :=
  ("program", ⟨0, 1020 + width⟩) :: ("expression_statement", ⟨0, 1020 + width⟩) ::
    (List.range 510).map fun i => ("array", ⟨i, 1020 + width - i⟩)

theorem occursAt_brackets (source : String) (width : Nat)
    (ht : (t.label.named && !t.isComment) = true) :
    (lower source (wrapped t (brackets width))).OccursAt maxDepth (lowerAt source t maxDepth) := by
  have hkinds : ∀ w ∈ brackets width, w.1 ∈ wrapperKinds := by
    simp [brackets, wrapperKinds]
  have hlength : 0 + (brackets width).length = maxDepth := by simp [brackets, maxDepth]
  have hroot := lower_eq_lowerAt source (wrapped t (brackets width))
  rw [← hlength]
  refine occursAt_wrapped hkinds ht (by omega) ?_
  rw [← hroot]
  exact .root

/-- The object in the text of `bracketText "{a}"`. -/
def loneName : GrammarTree :=
  .node { kind := "object", span := ⟨510, 513⟩ }
    [.node { kind := "shorthand_property_identifier", span := ⟨511, 512⟩ } []]

theorem lowerAt_loneName (source : String) : lowerAt source loneName maxDepth =
    .object ⟨510, 513⟩ [.property ⟨511, 512⟩
      (.other ⟨511, 512⟩ "shorthand_property_identifier" [])
      (.other ⟨511, 512⟩ "shorthand_property_identifier" []) true] := by
  have hmove : move source loneName maxDepth = .expand (planObject loneName maxDepth) := rfl
  have hdeep (u : GrammarTree) : lowerAt source u (maxDepth + 2) = other u [] :=
    lowerAt_of_deep (by omega)
  rw [lowerAt_expand hmove, assemble_planObject]
  simp only [hdeep]
  rfl

/-- Below the cap, the property of a name that stands alone is no bare
node, and its key is two levels too deep. -/
theorem lower_depth_uncapped_property :
    (lower (bracketText "{a}") (wrapped loneName (brackets 3))).OccursAt (maxDepth + 1)
      (.property ⟨511, 512⟩ (.other ⟨511, 512⟩ "shorthand_property_identifier" [])
        (.other ⟨511, 512⟩ "shorthand_property_identifier" []) true)
    ∧ ¬ Node.IsBare (.property ⟨511, 512⟩ (.other ⟨511, 512⟩ "shorthand_property_identifier" [])
        (.other ⟨511, 512⟩ "shorthand_property_identifier" []) true)
    ∧ (lower (bracketText "{a}") (wrapped loneName (brackets 3))).OccursAt (maxDepth + 2)
      (.other ⟨511, 512⟩ "shorthand_property_identifier" []) := by
  have hobject := occursAt_brackets (t := loneName) (bracketText "{a}") 3 rfl
  rw [lowerAt_loneName] at hobject
  have hproperty := hobject.child (List.mem_singleton_self _)
  refine ⟨hproperty, ?_, hproperty.child (List.mem_cons_self ..)⟩
  rintro ⟨_, _, h⟩
  cases h

/-- The template in the text of ``bracketText "f`${a}`"``. -/
def template : GrammarTree :=
  .node { kind := "template_string", span := ⟨511, 517⟩, role := some .arguments }
    [.node { kind := "template_substitution", span := ⟨512, 516⟩ }
      [.node { kind := "identifier", span := ⟨514, 515⟩ } []]]

/-- The template with its tag. -/
def taggedTemplate : GrammarTree :=
  .node { kind := "call_expression", span := ⟨510, 517⟩ }
    [.node { kind := "identifier", span := ⟨510, 511⟩, role := some .function } [], template]

theorem lowerAt_taggedTemplate (source : String) : lowerAt source taggedTemplate maxDepth =
    .tagged ⟨510, 517⟩ (.other ⟨510, 511⟩ "identifier" [])
      (.template ⟨511, 517⟩ (templateQuasis source template)
        [.other ⟨514, 515⟩ "identifier" []]) := by
  have hmove : move source taggedTemplate maxDepth =
      .expand ⟨.tagged template.span (templateQuasis source template),
        (.node { kind := "identifier", span := ⟨510, 511⟩, role := some .function } [],
          maxDepth + 1) :: atDepth (maxDepth + 2) (templateExpressions template)⟩ := rfl
  have hdeep (u : GrammarTree) : lowerAt source u (maxDepth + 1) = other u []
      ∧ lowerAt source u (maxDepth + 2) = other u [] :=
    ⟨lowerAt_of_deep (by omega), lowerAt_of_deep (by omega)⟩
  rw [lowerAt_expand hmove, assemble_tagged]
  simp only [hdeep]
  rfl

theorem lower_depth_capped_template :
    ∃ n, (lower (bracketText "f`${a}`") (wrapped taggedTemplate (brackets 7))).OccursAt
        (maxDepth + 1) n
      ∧ ¬ n.IsBare
      ∧ (∃ parent, (lower (bracketText "f`${a}`") (wrapped taggedTemplate (brackets 7))).OccursAt
        maxDepth parent ∧ parent.IsLinkOf n)
      ∧ ∀ c ∈ n.children, c.IsBare := by
  have htagged := occursAt_brackets (t := taggedTemplate) (bracketText "f`${a}`") 7 rfl
  rw [lowerAt_taggedTemplate] at htagged
  have htemplate := htagged.child (List.mem_cons_of_mem _ (List.mem_singleton_self _))
  rcases ((lower_depth_capped _ _).1 _ _ htemplate).2 (Nat.lt_succ_self _) with
    ⟨_, _, hbare⟩ | ⟨-, hlink, hbelow⟩
  · cases hbare
  · have hnot : ¬ Node.IsBare (.template ⟨511, 517⟩
        (templateQuasis (bracketText "f`${a}`") template) [.other ⟨514, 515⟩ "identifier" []]) := by
      rintro ⟨_, _, h⟩
      cases h
    exact ⟨_, htemplate, hnot, hlink, hbelow⟩

end Lowering

end ScriptScout
