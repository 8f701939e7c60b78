import ScriptScout.Proofs.Occurrence
import ScriptScout.Syntax.Lowering

/-!
# Lowered trees

Lowering works off a stack of tasks. What it computes has a recursive
reading (`lowerAt`), which knows no stack: a tree at a depth is
finished, seen through, or assembled from its lowered parts.
`runTasks_lower` ties the two together for any finished nodes and any
tasks behind.

From there on the machine plays no part. `layout_plan` says once what
plans there are, and `child_lowerAt` what stands one level below a
lowered node: the lowered parts of its plan, at the next depth, or one
of the two nodes that lowering puts in by itself (`PutIn`), the
template behind a tag and the property of a name that stands alone.
`occursAt_lower` extends this to all nodes of a lowered tree.
-/

namespace ScriptScout

/-! ## Trees inside trees -/

namespace GrammarTree

/-- `u` is the tree, a part of it, a part of a part and so on. -/
inductive Contains (t : GrammarTree) : GrammarTree → Prop
  | self : Contains t t
  | part {u v : GrammarTree} : Contains t u → v ∈ u.parts → Contains t v

theorem Contains.trans {t u v : GrammarTree} (htu : t.Contains u) (huv : u.Contains v) :
    t.Contains v := by
  induction huv with
  | self => exact htu
  | part _ hv ih => exact ih.part hv

theorem mem_parts_of_namedParts {t u : GrammarTree} (h : u ∈ t.namedParts) : u ∈ t.parts :=
  (List.mem_filter.mp h).1

theorem contains_namedPart {t u : GrammarTree} (h : u ∈ t.namedParts) : t.Contains u :=
  .part .self (mem_parts_of_namedParts h)

theorem contains_inRole {t u : GrammarTree} {r : Role} (h : t.inRole? r = some u) :
    t.Contains u :=
  .part .self (List.mem_of_find?_eq_some h)

end GrammarTree

namespace Lowering

/-! ## The recursive reading -/

theorem sizeOf_of_mem_parts {p : Plan} {q : GrammarTree × Nat} (h : q ∈ p.parts) :
    sizeOf q.1 ≤ p.size := by
  have hmem : q.1 ∈ p.parts.map Prod.fst := List.mem_map.mpr ⟨q, h, rfl⟩
  simpa [Plan.size, Function.comp_def] using sizeOf_le_total hmem

/-- The node of a tree that stands at a depth. -/
def lowerAt (source : String) (t : GrammarTree) (depth : Nat) : Node :=
  match _h : move source t depth with
  | .finish node => node
  | .enter inner => lowerAt source inner depth
  | .expand p => assemble t p.shape (p.parts.attach.map fun q => lowerAt source q.1.1 q.1.2)
termination_by sizeOf t
decreasing_by
  · exact move_enter_size _h
  · exact Nat.lt_of_le_of_lt (sizeOf_of_mem_parts q.2) (move_expand_size _h)

variable {source : String} {t : GrammarTree} {depth : Nat}

theorem lowerAt_finish {node : Node} (h : move source t depth = .finish node) :
    lowerAt source t depth = node := by
  rw [lowerAt]
  split <;> simp_all

theorem lowerAt_enter {inner : GrammarTree} (h : move source t depth = .enter inner) :
    lowerAt source t depth = lowerAt source inner depth := by
  rw [lowerAt]
  split <;> simp_all

theorem lowerAt_expand {p : Plan} (h : move source t depth = .expand p) :
    lowerAt source t depth =
      assemble t p.shape (p.parts.map fun q => lowerAt source q.1 q.2) := by
  rw [lowerAt]
  split
  · simp_all
  · simp_all
  · next p' hp' =>
      obtain rfl : p' = p := by simp_all
      congr 1
      exact p'.parts.attach_map_val (f := fun q => lowerAt source q.1 q.2)

/-! ## What the machine computes -/

section

variable (source) (finished : List Node) (tasks : List Task)

theorem runTasks_finish {node : Node} (h : move source t depth = .finish node) :
    runTasks source finished (.lower t depth :: tasks) =
      runTasks source (node :: finished) tasks := by
  rw [runTasks]
  split <;> simp_all

theorem runTasks_enter {inner : GrammarTree} (h : move source t depth = .enter inner) :
    runTasks source finished (.lower t depth :: tasks) =
      runTasks source finished (.lower inner depth :: tasks) := by
  rw [runTasks]
  split <;> simp_all

theorem runTasks_expand {p : Plan} (h : move source t depth = .expand p) :
    runTasks source finished (.lower t depth :: tasks) =
      runTasks source finished (p.parts.map (fun q => .lower q.1 q.2)
        ++ .assemble t p.shape p.parts.length :: tasks) := by
  rw [runTasks]
  split <;> simp_all

end

/-- Trees that are each lowered in one go are lowered one after the
other. -/
theorem runTasks_lower_all {parts : List (GrammarTree × Nat)}
    (h : ∀ q ∈ parts, ∀ finished tasks, runTasks source finished (.lower q.1 q.2 :: tasks) =
      runTasks source (lowerAt source q.1 q.2 :: finished) tasks)
    (finished : List Node) (tasks : List Task) :
    runTasks source finished (parts.map (fun q => .lower q.1 q.2) ++ tasks) =
      runTasks source ((parts.map fun q => lowerAt source q.1 q.2).reverse ++ finished) tasks := by
  induction parts generalizing finished with
  | nil => rfl
  | cons q parts ih =>
      rw [List.map_cons, List.cons_append, h q (List.mem_cons_self ..),
        ih fun q' hq' => h q' (List.mem_cons_of_mem _ hq')]
      simp

/-- The machine works off a tree by finishing its node. -/
theorem runTasks_lower (source : String) (t : GrammarTree) (depth : Nat) (finished : List Node)
    (tasks : List Task) : runTasks source finished (.lower t depth :: tasks) =
      runTasks source (lowerAt source t depth :: finished) tasks := by
  cases hmove : move source t depth with
  | finish node => rw [runTasks_finish _ _ _ hmove, lowerAt_finish hmove]
  | enter inner =>
      have := move_enter_size hmove
      rw [runTasks_enter _ _ _ hmove, lowerAt_enter hmove]
      exact runTasks_lower source inner depth finished tasks
  | expand p =>
      have hparts : ∀ q ∈ p.parts, ∀ finished tasks,
          runTasks source finished (.lower q.1 q.2 :: tasks) =
            runTasks source (lowerAt source q.1 q.2 :: finished) tasks := fun q hq =>
        have := Nat.lt_of_le_of_lt (sizeOf_of_mem_parts hq) (move_expand_size hmove)
        runTasks_lower source q.1 q.2
      rw [runTasks_expand _ _ _ hmove, runTasks_lower_all hparts, runTasks, lowerAt_expand hmove]
      simp
termination_by sizeOf t

theorem lower_eq_lowerAt (source : String) (t : GrammarTree) :
    lower source t = lowerAt source t 0 := by
  rw [lower, runTasks_lower, runTasks]
  rfl

/-! ## Moves -/

theorem move_of_deep (h : maxDepth < depth) : move source t depth = .finish (other t []) :=
  if_pos h

theorem leaf?_spec {node : Node} (h : leaf? source t = some node) :
    node.span = t.span ∧ node.children = [] := by
  unfold leaf? at h
  split at h <;> cases h <;> exact ⟨rfl, rfl⟩

theorem move_finish_spec {node : Node} (h : move source t depth = .finish node) :
    node.span = t.span ∧ node.children = [] := by
  unfold move at h
  split at h
  · cases h
    exact ⟨rfl, rfl⟩
  · split at h
    · split at h
      · cases h
      · cases h
        exact ⟨rfl, rfl⟩
    · split at h
      · next hleaf =>
          cases h
          exact leaf?_spec hleaf
      · cases h

theorem move_enter_spec {inner : GrammarTree} (h : move source t depth = .enter inner) :
    inner ∈ t.namedParts := by
  unfold move at h
  split at h
  · cases h
  · split at h
    · split at h
      · next hparts =>
          cases h
          simp [hparts]
      · cases h
    · split at h <;> cases h

/-! ## Plans -/

/-- The pairs of roles that plans look for, the one in front first. -/
def rolePairs : List (Role × Role) :=
  [(.left, .right), (.function, .arguments), (.constructor, .arguments), (.object, .property),
    (.object, .index), (.name, .value), (.key, .value)]

/-- Where the trees come from that become the children of a node. -/
inductive Draws (t : GrammarTree) : List GrammarTree → Prop
  | named {ts : List GrammarTree} (hts : ts.Sublist t.namedParts) : Draws t ts
  | role {r : Role} {a : GrammarTree} (ha : t.inRole? r = some a) : Draws t [a]
  | roles {r s : Role} {a b : GrammarTree} (hrs : (r, s) ∈ rolePairs)
      (ha : t.inRole? r = some a) (hb : t.inRole? s = some b) : Draws t [a, b]
  | arguments {r s : Role} {a b : GrammarTree} (hrs : (r, s) ∈ rolePairs)
      (ha : t.inRole? r = some a) (hb : t.inRole? s = some b) : Draws t (a :: b.namedParts)
  | substitutions : Draws t (templateExpressions t)

/-- Do the lowered parts stand directly below a node of the shape? -/
def Shape.isLevel : Shape → Bool
  | .tagged .. | .object .. => false
  | _ => true

/-- The plans for a tree at a depth. -/
inductive Layout (source : String) (t : GrammarTree) (depth : Nat) : Plan → Prop
  | level {shape : Shape} {ts : List GrammarTree} (hshape : shape.isLevel = true)
      (hts : Draws t ts) : Layout source t depth ⟨shape, atDepth (depth + 1) ts⟩
  | tagged {tag template : GrammarTree} (htag : t.inRole? .function = some tag)
      (htemplate : t.inRole? .arguments = some template) :
      Layout source t depth ⟨.tagged template.span (templateQuasis source template),
        (tag, depth + 1) :: atDepth (depth + 2) (templateExpressions template)⟩
  | object : Layout source t depth (planObject t depth)

theorem layout_planOther : Layout source t depth (planOther t depth) :=
  .level rfl (.named (.refl _))

theorem layout_planPair {r s : Role} (hrs : (r, s) ∈ rolePairs) {shape : Shape}
    (hshape : shape.isLevel = true) : Layout source t depth (planPair t depth r s shape) := by
  unfold planPair
  split
  · next ha hb => exact .level hshape (.roles hrs ha hb)
  · exact layout_planOther

theorem layout_planCall : Layout source t depth (planCall source t depth) := by
  unfold planCall
  split
  · next ha hb =>
      split
      · exact .tagged ha hb
      · exact .level rfl (.arguments (by decide) ha hb)
  · next ha _ => exact .level rfl (.role ha)
  · exact layout_planOther

theorem layout_planConstruct : Layout source t depth (planConstruct t depth) := by
  unfold planConstruct
  split
  · next ha hb => exact .level rfl (.arguments (by decide) ha hb)
  · next ha _ => exact .level rfl (.role ha)
  · exact layout_planOther

theorem layout_planDeclarator : Layout source t depth (planDeclarator t depth) := by
  unfold planDeclarator
  split
  · next ha hb => exact .level rfl (.roles (by decide) ha hb)
  · next ha _ => exact .level rfl (.role ha)
  · exact layout_planOther

theorem layout_planAttribute : Layout source t depth (planAttribute source t depth) := by
  unfold planAttribute
  split
  · next name value rest hparts =>
      have hvalue : [value].Sublist t.namedParts := by
        rw [hparts]
        exact ((List.nil_sublist rest).cons_cons value).cons name
      exact .level rfl (.named hvalue)
  · exact .level rfl (.named (List.nil_sublist _))
  · exact layout_planOther

/-- Every plan has one of the layouts. -/
theorem layout_plan (source : String) (t : GrammarTree) (depth : Nat) :
    Layout source t depth (plan source t depth) := by
  unfold plan
  split
  case h_1 => exact .level rfl .substitutions
  case h_5 => exact layout_planCall
  case h_6 => exact layout_planConstruct
  case h_9 => exact layout_planDeclarator
  case h_10 => exact .object
  case h_12 => exact .level rfl (.named (.refl _))
  case h_13 => exact layout_planAttribute
  case h_14 => exact layout_planOther
  all_goals exact layout_planPair (by decide) rfl

theorem move_expand_spec {p : Plan} (h : move source t depth = .expand p) :
    depth ≤ maxDepth ∧ Layout source t depth p := by
  unfold move at h
  split at h
  · cases h
  · next hdepth =>
      split at h
      · split at h <;> cases h
      · split at h
        · cases h
        · cases h
          exact ⟨Nat.le_of_not_lt hdepth, layout_plan source t depth⟩

theorem contains_templateExpression {u : GrammarTree} (h : u ∈ templateExpressions t) :
    t.Contains u := by
  obtain ⟨s, hs, hu⟩ := List.mem_filterMap.mp h
  have hnamed : s ∈ t.namedParts := (List.mem_filter.mp hs).1
  have hinner : u ∈ s.namedParts := List.mem_of_mem_head? hu
  exact (GrammarTree.contains_namedPart hnamed).trans (GrammarTree.contains_namedPart hinner)

theorem Draws.contains {ts : List GrammarTree} (h : Draws t ts) {u : GrammarTree} (hu : u ∈ ts) :
    t.Contains u := by
  cases h with
  | named hts => exact GrammarTree.contains_namedPart (hts.subset hu)
  | role ha =>
      obtain rfl := List.mem_singleton.mp hu
      exact GrammarTree.contains_inRole ha
  | roles _ ha hb =>
      rcases List.mem_cons.mp hu with rfl | hu
      · exact GrammarTree.contains_inRole ha
      · obtain rfl := List.mem_singleton.mp hu
        exact GrammarTree.contains_inRole hb
  | arguments _ ha hb =>
      rcases List.mem_cons.mp hu with rfl | hu
      · exact GrammarTree.contains_inRole ha
      · exact (GrammarTree.contains_inRole hb).trans (GrammarTree.contains_namedPart hu)
  | substitutions => exact contains_templateExpression hu

/-! ## Assembly -/

theorem assemble_span (t : GrammarTree) (shape : Shape) (children : List Node) :
    (assemble t shape children).span = t.span := by
  unfold assemble
  split
  · rfl
  · cases hbuild : shape.build? t.span children with
    | none => rfl
    | some node =>
        unfold Shape.build? at hbuild
        split at hbuild <;> cases hbuild <;> rfl

/-- A node of a shape without levels of its own has the lowered parts
as its children, less those that it has no use for. -/
theorem assemble_children {shape : Shape} (hshape : shape.isLevel = true) (t : GrammarTree)
    (children : List Node) : (assemble t shape children).children.Sublist children := by
  unfold assemble
  split
  · exact .refl _
  · cases hbuild : shape.build? t.span children with
    | none => exact List.nil_sublist _
    | some node =>
        have hhead (ns : List Node) : ns.head?.toList.Sublist ns := by
          cases ns <;> simp [Option.toList]
        unfold Shape.build? at hbuild
        split at hbuild <;> cases hbuild <;> simp_all [Node.children, Shape.isLevel]

/-! ## One level below a lowered node -/

/-- The nodes that lowering puts in below a node, at a depth, over
trees inside `t`: they have no tree of their own. -/
inductive PutIn (source : String) (t : GrammarTree) (depth : Nat) : Node → Node → Prop
  | template {span : Span} {tag : Node} {u : GrammarTree} (hu : t.Contains u) :
      PutIn source t depth
        (.tagged span tag (.template u.span (templateQuasis source u)
          ((templateExpressions u).map (lowerAt source · (depth + 1)))))
        (.template u.span (templateQuasis source u)
          ((templateExpressions u).map (lowerAt source · (depth + 1))))
  | property {span : Span} {properties : List Node} {u : GrammarTree} (hu : t.Contains u)
      (hshort : isShorthand u = true)
      (hmem : property (lowerAt source u (depth + 1)) true ∈ properties) :
      PutIn source t depth (.object span properties)
        (property (lowerAt source u (depth + 1)) true)

theorem PutIn.mono {u : GrammarTree} {parent n : Node} (htu : t.Contains u)
    (h : PutIn source u depth parent n) : PutIn source t depth parent n := by
  cases h with
  | template hu => exact .template (htu.trans hu)
  | property hu hshort hmem => exact .property (htu.trans hu) hshort hmem

theorem lowerAt_atDepth (source : String) (depth : Nat) (ts : List GrammarTree) :
    (atDepth depth ts).map (fun q => lowerAt source q.1 q.2) =
      ts.map (lowerAt source · depth) := by
  rw [atDepth, List.map_map]
  rfl

theorem child_level {ts : List GrammarTree} (hts : Draws t ts) {shape : Shape}
    (hshape : shape.isLevel = true) {c : Node}
    (hc : c ∈ (assemble t shape
      ((atDepth (depth + 1) ts).map fun q => lowerAt source q.1 q.2)).children) :
    ∃ u, t.Contains u ∧ c = lowerAt source u (depth + 1) := by
  rw [lowerAt_atDepth] at hc
  obtain ⟨u, hu, rfl⟩ := List.mem_map.mp ((assemble_children hshape t _).subset hc)
  exact ⟨u, hts.contains hu, rfl⟩

theorem assemble_tagged (source : String) (t tag template : GrammarTree) (depth : Nat) :
    assemble t (.tagged template.span (templateQuasis source template))
        (((tag, depth + 1) :: atDepth (depth + 2) (templateExpressions template)).map
          fun q => lowerAt source q.1 q.2) =
      .tagged t.span (lowerAt source tag (depth + 1))
        (.template template.span (templateQuasis source template)
          ((templateExpressions template).map (lowerAt source · (depth + 2)))) := by
  rw [List.map_cons, lowerAt_atDepth]
  rfl

theorem assemble_planObject (source : String) (t : GrammarTree) (depth : Nat) :
    assemble t (planObject t depth).shape
        ((planObject t depth).parts.map fun q => lowerAt source q.1 q.2) =
      .object t.span (t.namedParts.map fun u =>
        if isShorthand u then property (lowerAt source u (depth + 2)) true
        else lowerAt source u (depth + 1)) := by
  have hmembers (us : List GrammarTree) : List.zipWith property
      ((us.map fun u => (u, if isShorthand u then depth + 2 else depth + 1)).map
        fun q => lowerAt source q.1 q.2) (us.map isShorthand) =
      us.map fun u => if isShorthand u then property (lowerAt source u (depth + 2)) true
        else lowerAt source u (depth + 1) := by
    induction us with
    | nil => rfl
    | cons u us ih =>
        rw [List.map_cons, List.map_cons, List.map_cons, List.map_cons, List.zipWith_cons_cons, ih]
        cases isShorthand u <;> rfl
  exact congrArg (Node.object t.span) (hmembers t.namedParts)

theorem child_expand {p : Plan} (h : Layout source t depth p) {c : Node}
    (hc : c ∈ (assemble t p.shape (p.parts.map fun q => lowerAt source q.1 q.2)).children) :
    (∃ u, t.Contains u ∧ c = lowerAt source u (depth + 1)) ∨ PutIn source t (depth + 1)
      (assemble t p.shape (p.parts.map fun q => lowerAt source q.1 q.2)) c := by
  cases h with
  | level hshape hts => exact .inl (child_level hts hshape hc)
  | @tagged tag template htag htemplate =>
      have heq := assemble_tagged source t tag template depth
      rw [heq] at hc ⊢
      rcases List.mem_cons.mp hc with rfl | hc
      · exact .inl ⟨tag, GrammarTree.contains_inRole htag, rfl⟩
      · obtain rfl := List.mem_singleton.mp hc
        exact .inr (.template (GrammarTree.contains_inRole htemplate))
  | object =>
      rw [assemble_planObject] at hc ⊢
      obtain ⟨u, hu, rfl⟩ := List.mem_map.mp hc
      have hin : t.Contains u := GrammarTree.contains_namedPart hu
      cases hshort : isShorthand u with
      | false => exact .inl ⟨u, hin, rfl⟩
      | true =>
          rw [hshort] at hc
          exact .inr (.property hin hshort hc)

/-- What stands below a lowered node: lowered trees one level deeper,
and nodes that were put in. -/
theorem child_lowerAt {source : String} {t : GrammarTree} {depth : Nat} {c : Node}
    (hc : c ∈ (lowerAt source t depth).children) :
    depth ≤ maxDepth ∧ ((∃ u, t.Contains u ∧ c = lowerAt source u (depth + 1))
      ∨ PutIn source t (depth + 1) (lowerAt source t depth) c) := by
  cases hmove : move source t depth with
  | finish node =>
      rw [lowerAt_finish hmove, (move_finish_spec hmove).2] at hc
      cases hc
  | enter inner =>
      have := move_enter_size hmove
      have hinner : t.Contains inner := GrammarTree.contains_namedPart (move_enter_spec hmove)
      rw [lowerAt_enter hmove] at hc ⊢
      obtain ⟨hdepth, ⟨u, hu, rfl⟩ | hput⟩ := child_lowerAt hc
      · exact ⟨hdepth, .inl ⟨u, hinner.trans hu, rfl⟩⟩
      · exact ⟨hdepth, .inr (hput.mono hinner)⟩
  | expand p =>
      obtain ⟨hdepth, hlayout⟩ := move_expand_spec hmove
      rw [lowerAt_expand hmove] at hc ⊢
      exact ⟨hdepth, child_expand hlayout hc⟩
termination_by sizeOf t

theorem mem_children_property {leaf c : Node} :
    c ∈ (property leaf true).children ↔ c = leaf := by
  rw [show (property leaf true).children = [leaf, leaf] from rfl]
  simp

/-- A node that was put in has lowered trees below it, one level
deeper. -/
theorem PutIn.child {parent n c : Node} (h : PutIn source t depth parent n)
    (hc : c ∈ n.children) : ∃ u, t.Contains u ∧ c = lowerAt source u (depth + 1) := by
  cases h with
  | template hu =>
      obtain ⟨v, hv, rfl⟩ := List.mem_map.mp hc
      exact ⟨v, hu.trans (contains_templateExpression hv), rfl⟩
  | property hu => exact ⟨_, hu, mem_children_property.mp hc⟩

/-- All nodes of a lowered tree: at its own depth each is the node of a
tree, or it was put in below such a node. -/
theorem occursAt_lower {n : Node} (h : (lower source t).OccursAt depth n) :
    (∃ u, t.Contains u ∧ n = lowerAt source u depth)
      ∨ ∃ above parent, depth = above + 1 ∧ above ≤ maxDepth
        ∧ (lower source t).OccursAt above parent ∧ PutIn source t depth parent n := by
  induction h with
  | root => exact .inl ⟨t, .self, lower_eq_lowerAt source t⟩
  | @child above n c hn hc ih =>
      rcases ih with ⟨u, hu, rfl⟩ | ⟨_, _, -, -, -, hput⟩
      · obtain ⟨hdepth, ⟨v, hv, rfl⟩ | hput⟩ := child_lowerAt hc
        · exact .inl ⟨v, hu.trans hv, rfl⟩
        · exact .inr ⟨above, _, rfl, hdepth, hn, hput.mono hu⟩
      · exact .inl (hput.child hc)

end Lowering

end ScriptScout
