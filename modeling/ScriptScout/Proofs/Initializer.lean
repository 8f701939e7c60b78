import ScriptScout.Proofs.Coverage
import ScriptScout.Proofs.Preorder
import ScriptScout.Proofs.Shapes

/-!
# What an initializer is taken for

An initializer is offered twice. Its declaration offers it with the
value that it has under the names bound before, and then binds its own
name; two nodes later the walk comes to the initializer itself, which
is offered with the value that it has by then. The second offer counts
if the first was turned down, and where the initializer speaks of the
name that it is declared for, it is then told under its own binding
(`analyzeTree_initializer`). A value that the expression never has is
reported so (`analyzeTree_initializer_rebound`).

No third offer is made if the span of the initializer is its own. Which
offers there are is a matter of positions in the listing of the tree,
not of nodes, since equal nodes can stand in several places:
`source?_index` finds the two of them.
-/

namespace ScriptScout

open Analysis

/-! ## Spans that stand alone -/

/-- At most one node of the tree stands under the span. -/
def Node.IsLone (root : Node) (span : Span) : Prop :=
  ∀ depth, (root.preorder depth).countP (·.span == span) ≤ 1

section

variable {α β : Type} {p : β → Bool}

theorem index_eq_of_countP_le_one {xs : List β} (h : xs.countP p ≤ 1) {i j : Nat} {x y : β}
    (hi : xs[i]? = some x) (hj : xs[j]? = some y) (hx : p x = true) (hy : p y = true) :
    i = j := by
  induction xs generalizing i j with
  | nil => cases hi
  | cons a xs ih =>
      have hlater {k : Nat} {z : β} (hk : xs[k]? = some z) (hz : p z = true) :
          0 < xs.countP p :=
        List.countP_pos_iff.mpr ⟨z, List.mem_of_getElem? hk, hz⟩
      rw [List.countP_cons] at h
      cases i with
      | zero =>
          cases j with
          | zero => rfl
          | succ j =>
              obtain rfl := Option.some.inj hi
              have := hlater hj hy
              rw [if_pos hx] at h
              omega
      | succ i =>
          cases j with
          | zero =>
              obtain rfl := Option.some.inj hj
              have := hlater hi hx
              rw [if_pos hy] at h
              omega
          | succ j => rw [ih (by omega) hi hj]

theorem countP_any_le_countP_flatMap {f : α → List β} (xs : List α) :
    xs.countP (fun x => (f x).any p) ≤ (xs.flatMap f).countP p := by
  induction xs with
  | nil => exact Nat.le_refl 0
  | cons x xs ih =>
      rw [List.countP_cons, List.flatMap_cons, List.countP_append]
      split
      · next h =>
          have : 0 < (f x).countP p := List.countP_pos_iff.mpr (List.any_eq_true.mp h)
          omega
      · omega

end

namespace Node.IsLone

variable {root : Node} {span : Span}

/-- No two places of the tree have a part under the span. -/
theorem parent_index (h : root.IsLone span) {depth i j : Nat} {n m c d : Node}
    (hi : (root.preorder depth)[i]? = some n) (hj : (root.preorder depth)[j]? = some m)
    (hc : c ∈ n.children) (hd : d ∈ m.children) (hcspan : c.span = span)
    (hdspan : d.span = span) : i = j := by
  have hparts : ((root.preorder depth).flatMap children).countP (·.span == span) ≤ 1 := by
    have hcount := h (depth + 1)
    rw [(root.preorder_succ_perm depth).countP_eq, List.countP_cons] at hcount
    omega
  have hone := Nat.le_trans (countP_any_le_countP_flatMap (f := children) _) hparts
  refine index_eq_of_countP_le_one hone hi hj ?_ ?_
  · exact List.any_eq_true.mpr ⟨c, hc, beq_iff_eq.mpr hcspan⟩
  · exact List.any_eq_true.mpr ⟨d, hd, beq_iff_eq.mpr hdspan⟩

/-- If one end of a list holds the span, the rest of it does not. -/
theorem not_mem_around (h : root.IsLone span) {depth : Nat} {before middle after : List Node}
    (hsplit : root.preorder depth = before ++ middle ++ after) {m : Node} (hm : m ∈ middle)
    (hspan : m.span = span) : ∀ n ∈ before ++ after, n.span ≠ span := by
  intro n hn hnspan
  have hcount := h depth
  have hmiddle : 0 < middle.countP (·.span == span) :=
    List.countP_pos_iff.mpr ⟨m, hm, beq_iff_eq.mpr hspan⟩
  have haround : 0 < (before ++ after).countP (·.span == span) :=
    List.countP_pos_iff.mpr ⟨n, hn, beq_iff_eq.mpr hnspan⟩
  rw [hsplit, List.countP_append, List.countP_append] at hcount
  rw [List.countP_append] at haround
  omega

end Node.IsLone

/-- Behind a declaration stand its name and what lies below its
initializer. -/
theorem Node.preorder_declarator (depth : Nat) (span idSpan : Span) (name : String) (init : Node) :
    (Node.declarator span (.identifier idSpan name) (some init)).preorder (depth + 1) =
      .declarator span (.identifier idSpan name) (some init) :: .identifier idSpan name
        :: init.preorder depth := by
  have hname : (Node.identifier idSpan name).preorder depth = [.identifier idSpan name] := by
    cases depth <;> rfl
  simp only [preorder, children, Option.toList_some, List.flatMap_cons, hname, List.flatMap_nil,
    List.append_nil, List.cons_append, List.nil_append]

theorem Node.Declares.init_mem_children {n init : Node} {name : String}
    (h : n.Declares name init) : init ∈ n.children := by
  obtain ⟨span, id, rfl, -⟩ := h
  simp [Node.children]

namespace Node.IsLone

variable {root n init : Node} {name : String}

/-- Where the walk comes to an initializer that has its span to itself:
two nodes behind its declaration. -/
theorem init_index (h : root.IsLone init.span) {depth i j : Nat} {m : Node}
    (hi : (root.preorder depth)[i]? = some n) (hdecl : n.Declares name init)
    (hj : (root.preorder depth)[j]? = some m) (hspan : m.span = init.span) :
    j = i + 2 ∧ m = init
      ∧ ∃ span, (root.preorder depth)[i + 1]? = some (.identifier span name) := by
  obtain ⟨span, id, rfl, hid⟩ := hdecl
  obtain ⟨idSpan, rfl⟩ := Node.eq_identifier hid
  obtain ⟨before, below, post, before', post', rfl, hlist, hnext, hbefore, hpost⟩ :=
    Node.exists_subtree_at hi
  rw [Node.preorder_declarator] at hnext
  cases below with
  | zero =>
      -- the walk stops at the declaration, and the span stands below it
      exfalso
      have hsplit : root.preorder (depth + 1) = (before'
          ++ [.declarator span (.identifier idSpan name) (some init), .identifier idSpan name])
          ++ init.preorder 0 ++ post' := by
        rw [hnext]
        simp only [List.append_assoc, List.cons_append, List.nil_append]
      have haround := h.not_mem_around hsplit (List.mem_singleton.mpr rfl) rfl
      have hm := List.mem_of_getElem? hj
      rw [hlist, List.mem_append, List.mem_append] at hm
      rcases hm with (hm | hm) | hm
      · exact haround m (by simp [hbefore.subset hm]) hspan
      · obtain rfl := List.mem_singleton.mp hm
        exact haround _ (by simp) hspan
      · exact haround m (by simp [hpost.subset hm]) hspan
  | succ below =>
      obtain ⟨rest, hrest⟩ := init.preorder_eq_cons below
      rw [Node.preorder_declarator, hrest, List.append_assoc] at hlist
      have hname : (root.preorder depth)[before.length + 1]? = some (.identifier idSpan name) := by
        rw [hlist, List.getElem?_append_right (Nat.le_add_right ..), Nat.add_sub_cancel_left]
        rfl
      have hinit : (root.preorder depth)[before.length + 2]? = some init := by
        rw [hlist, List.getElem?_append_right (Nat.le_add_right ..), Nat.add_sub_cancel_left]
        rfl
      obtain rfl := index_eq_of_countP_le_one (h depth) hj hinit (beq_iff_eq.mpr hspan)
        (beq_self_eq_true _)
      exact ⟨rfl, Option.some.inj (hj.symm.trans hinit), idSpan, hname⟩

end Node.IsLone

/-! ## The two offers -/

namespace Analysis

variable {settings : Settings} {source : String} {root init : Node} {i : Nat} {name raw : String}

/-- An initializer with a span of its own is offered by its declaration
and by itself, and by nothing else. -/
theorem source?_index (hgives : GivesAt settings source root i name init raw)
    (hlone : root.IsLone init.span) {j : Nat} {n m : Node} {site : Url.Site}
    (hj : (visited settings root)[j]? = some n)
    (hsource : UrlUse.source? settings.analysis n = some (m, site)) (hspan : m.span = init.span) :
    m = init ∧ (j = i ∧ settings.analysis.enableVariableTracking = true
      ∨ j = i + 2 ∧ ∃ span, (visited settings root)[i + 1]? = some (.identifier span name)) := by
  obtain ⟨decl, hi, hdecl, -⟩ := hgives
  rw [visited_eq_preorder] at hi hj ⊢
  rcases UrlUse.source?_self_or_child hsource with rfl | hchild
  · obtain ⟨rfl, rfl, hname⟩ := hlone.init_index hi hdecl hj hspan
    exact ⟨rfl, Or.inr ⟨rfl, hname⟩⟩
  · obtain rfl := hlone.parent_index hi hj hdecl.init_mem_children hchild rfl hspan
    obtain rfl := Option.some.inj (hi.symm.trans hj)
    cases htrack : settings.analysis.enableVariableTracking with
    | false =>
        obtain ⟨span, id, rfl, -⟩ := hdecl
        rw [UrlUse.source?, UrlUse.declaration?_of_untracked htrack] at hsource
        cases hsource
    | true =>
        rw [UrlUse.source?, (UrlUse.declaration?_iff htrack).mpr hdecl] at hsource
        obtain ⟨rfl, -⟩ := Prod.mk.injEq .. |>.mp (Option.some.inj hsource)
        exact ⟨rfl, Or.inl ⟨rfl, rfl⟩⟩

section

variable (hon : settings.modules.urls = true)

include hon

/-- A declaration binds its name, and nothing else. -/
theorem boundAt_succ_of_givesAt (htrack : settings.analysis.enableVariableTracking = true)
    (hgives : GivesAt settings source root i name init raw) :
    boundAt settings source root (i + 1) = (boundAt settings source root i).bind name raw := by
  obtain ⟨n, hn, hdecl, hraw⟩ := hgives
  rw [boundAt_eq hon] at hraw ⊢
  have hlearn : UrlUse.learn settings.analysis n (memoryAt settings source root i) =
      UrlUse.bindInit (memoryAt settings source root i) name init raw := by
    simp only [UrlUse.learn, (UrlUse.declaration?_iff htrack).mpr hdecl, hraw]
  rw [memoryAt_succ hn, (UrlUse.step_learned n _).1, Scene.of_settings, hlearn,
    UrlUse.bindInit_bindings, boundAt_eq hon]

theorem boundAt_succ_of_identifier {k : Nat} {span : Span} {x : String}
    (hk : (visited settings root)[k]? = some (.identifier span x)) :
    boundAt settings source root (k + 1) = boundAt settings source root k := by
  rw [boundAt_eq hon, boundAt_eq hon, memoryAt_succ hk, (UrlUse.step_learned _ _).1]
  rfl

end

/-- Every report goes back to an offer that a visited node made at its
moment. -/
theorem exists_offer_at (hon : settings.modules.urls = true) {k : Nat} {u : UrlFinding}
    (hu : u ∈ reportsAt settings source root k) :
    ∃ j < k, ∃ n m, ∃ o : UrlUse.Offer, (visited settings root)[j]? = some n
      ∧ UrlUse.source? settings.analysis n = some (m, o.site) ∧ u.span = m.span
      ∧ m.resolve (boundAt settings source root j) = some o.value
      ∧ u.value = normalizeValue o.value := by
  rw [reportsAt_eq hon] at hu
  obtain ⟨before, n, after, o, hsplit, hoffer, -, rfl⟩ := UrlUse.exists_offer_of_report hu
  obtain ⟨m, hsource, hspan, hvalue⟩ := UrlUse.offerOf_eq_some hoffer
  have hlt : before.length < k := by
    have hlength := congrArg List.length hsplit
    simp only [List.length_take, List.length_append, List.length_cons] at hlength
    omega
  have hn : (visited settings root)[before.length]? = some n := by
    rw [← List.getElem?_take_of_lt hlt, hsplit, List.getElem?_append_right (Nat.le_refl _),
      Nat.sub_self]
    rfl
  have hbefore : (visited settings root).take before.length = before := by
    rw [← Nat.min_eq_left (Nat.le_of_lt hlt), ← List.take_take, hsplit, List.take_left']
    rfl
  refine ⟨before.length, hlt, n, m, o, hn, hsource, hspan, ?_, rfl⟩
  rw [boundAt_eq hon, memoryAt, hbefore]
  exact hvalue

theorem walk_urls_eq_reportsAt (settings : Settings) (source : String) (root : Node) :
    (walk settings source root).2.urls =
      reportsAt settings source root (visited settings root).length := by
  rw [reportsAt, List.take_length, walk]

section

variable (hon : settings.modules.urls = true)
  (hgives : GivesAt settings source root i name init raw) (hlone : root.IsLone init.span)

include hon hgives hlone

/-- A report under the span of the initializer is of one of the two
values. -/
theorem value_at_initializer {u : UrlFinding} (hu : u ∈ (walk settings source root).2.urls)
    (hspan : u.span = init.span) :
    u.value = normalizeValue raw ∨ settings.analysis.enableVariableTracking = true
      ∧ (init.resolve ((boundAt settings source root i).bind name raw)).map normalizeValue =
        some u.value := by
  rw [walk_urls_eq_reportsAt] at hu
  obtain ⟨j, -, n, m, o, hn, hsource, hm, hvalue, hu'⟩ := exists_offer_at hon hu
  obtain ⟨-, -, -, hraw⟩ := id hgives
  obtain ⟨rfl, ⟨rfl, -⟩ | ⟨rfl, idSpan, hname⟩⟩ :=
    source?_index hgives hlone hn hsource (hm.symm.trans hspan)
  · left
    rw [hu', Option.some.inj (hvalue.symm.trans hraw)]
  · rw [boundAt_succ_of_identifier hon hname] at hvalue
    cases htrack : settings.analysis.enableVariableTracking with
    | false =>
        left
        rw [(memoryAt_of_untracked hon htrack _).1] at hvalue hraw
        rw [hu', Option.some.inj (hvalue.symm.trans hraw)]
    | true =>
        right
        rw [← boundAt_succ_of_givesAt hon htrack hgives, hvalue, Option.map_some, hu']
        exact ⟨rfl, rfl⟩

/-- Nothing is reported under the span before the declaration. -/
theorem reportsAt_initializer :
    ∀ v ∈ reportsAt settings source root i, v.span ≠ init.span := by
  intro v hv hspan
  obtain ⟨j, hlt, n, m, o, hn, hsource, hm, -⟩ := exists_offer_at hon hv
  obtain ⟨-, ⟨rfl, -⟩ | ⟨rfl, -⟩⟩ :=
    source?_index hgives hlone hn hsource (hm.symm.trans hspan)
  · omega
  · omega

theorem value_at_reportable_initializer
    (htrack : settings.analysis.enableVariableTracking = true)
    (hrep : UrlUse.Reportable settings (normalizeValue raw) .plain) :
    ∃ u, (walk settings source root).2.urls.filter (·.span == init.span) = [u]
      ∧ u.value = normalizeValue raw := by
  obtain ⟨u, hu, hspan, hvalue⟩ := exists_report_of_givesAt hon htrack hgives hrep
    (reportsAt_initializer hon hgives hlone)
  refine ⟨u, ?_, hvalue⟩
  rw [← hspan]
  exact walk_urls_filter_span hon hu

end

/-- **What is reported of an initializer.** If the span of an
initializer is its own, a report under it is of the value that the
initializer has under the names bound before its declaration; or else
that value is not worth reporting, and the report is of the value that
it has once its own name is bound to it. A first value that is worth
reporting is reported, and nothing else is under that span. -/
theorem analyzeTree_initializer (hgives : GivesAt settings source root i name init raw)
    (hlone : root.IsLone init.span) :
    (∀ u ∈ (analyzeTree settings source root).urls, u.span = init.span →
      u.value = normalizeValue raw
        ∨ settings.analysis.enableVariableTracking = true
          ∧ ¬UrlUse.Reportable settings (normalizeValue raw) .plain
          ∧ (init.resolve ((boundAt settings source root i).bind name raw)).map normalizeValue =
            some u.value)
    ∧ (settings.modules.urls = true → settings.analysis.enableVariableTracking = true →
      UrlUse.Reportable settings (normalizeValue raw) .plain →
      ∃ u, (walk settings source root).2.urls.filter (·.span == init.span) = [u]
        ∧ u.value = normalizeValue raw) := by
  refine ⟨fun u hu hspan => ?_,
    fun hon htrack hrep => value_at_reportable_initializer hon hgives hlone htrack hrep⟩
  have hon := urls_of_mem_analyzeTree hu
  have hwalk := (mem_analyzeTree_urls.mp hu).1
  rcases value_at_initializer hon hgives hlone hwalk hspan with hfirst | ⟨htrack, hagain⟩
  · exact Or.inl hfirst
  · by_cases hrep : UrlUse.Reportable settings (normalizeValue raw) .plain
    · -- the first value has the only report under the span
      obtain ⟨v, hone, hvalue⟩ :=
        value_at_reportable_initializer hon hgives hlone htrack hrep
      have hmem : u ∈ [v] := by
        rw [← hone, List.mem_filter]
        exact ⟨hwalk, beq_iff_eq.mpr hspan⟩
      rw [List.mem_singleton.mp hmem]
      exact Or.inl hvalue
    · exact Or.inr ⟨htrack, hrep, hagain⟩

/-! ## A name that is declared again -/

/-- The sum of `redeclared`. -/
def redeclaredSum (base step : String) : Node :=
  let b := base.utf8ByteSize
  let stop := b + 22 + step.utf8ByteSize
  .binary ⟨b + 16, stop⟩ "+" (.identifier ⟨b + 16, b + 17⟩ "p")
    (.literal ⟨b + 20, stop⟩ (.string step))

/-- The tree of `var p = "base", p = p + "step";`. -/
def redeclared (base step : String) : Node :=
  let b := base.utf8ByteSize
  let stop := b + 22 + step.utf8ByteSize
  .other ⟨0, stop + 1⟩ "program" [.other ⟨0, stop + 1⟩ "variable_declaration"
    [.declarator ⟨4, b + 10⟩ (.identifier ⟨4, 5⟩ "p") (some (.literal ⟨8, b + 10⟩ (.string base))),
      .declarator ⟨b + 12, stop⟩ (.identifier ⟨b + 12, b + 13⟩ "p")
        (some (redeclaredSum base step))]]

section

variable {source base step : String}

/-- The nodes of `redeclared`, down to a depth that leaves none out. -/
theorem preorder_redeclared (depth : Nat) :
    (redeclared base step).preorder (depth + 4) =
      let b := base.utf8ByteSize
      let stop := b + 22 + step.utf8ByteSize
      let first := Node.declarator ⟨4, b + 10⟩ (.identifier ⟨4, 5⟩ "p")
        (some (.literal ⟨8, b + 10⟩ (.string base)))
      let second := Node.declarator ⟨b + 12, stop⟩ (.identifier ⟨b + 12, b + 13⟩ "p")
        (some (redeclaredSum base step))
      [redeclared base step, .other ⟨0, stop + 1⟩ "variable_declaration" [first, second],
        first, .identifier ⟨4, 5⟩ "p", .literal ⟨8, b + 10⟩ (.string base),
        second, .identifier ⟨b + 12, b + 13⟩ "p", redeclaredSum base step,
        .identifier ⟨b + 16, b + 17⟩ "p", .literal ⟨b + 20, stop⟩ (.string step)] := by
  cases depth <;> rfl

theorem isLone_redeclared : (redeclared base step).IsLone (redeclaredSum base step).span := by
  have hdeep (depth : Nat) : ((redeclared base step).preorder (depth + 4)).countP
      (·.span == (redeclaredSum base step).span) ≤ 1 := by
    rw [preorder_redeclared]
    simp [List.countP_cons, redeclared, redeclaredSum, Node.span]
    omega
  intro depth
  have hle : ((redeclared base step).preorder depth).Sublist
      ((redeclared base step).preorder (depth + 4)) :=
    (((Node.preorder_sublist_succ _ _).trans (Node.preorder_sublist_succ _ _)).trans
      (Node.preorder_sublist_succ _ _)).trans (Node.preorder_sublist_succ _ _)
  exact Nat.le_trans (hle.countP_le) (hdeep depth)

theorem visited_redeclared : visited rootedOnly (redeclared base step) =
    (redeclared base step).preorder (196 + 4) :=
  visited_eq_preorder rootedOnly (redeclared base step)

theorem resolve_redeclaredSum (b : Bindings) :
    (redeclaredSum base step).resolve b = some ((b.get? "p").getD placeholder ++ step) := by
  simp [redeclaredSum, Node.resolve, runParts, Part.split?, Node.operand, Node.string?,
    Node.identifier?]

theorem givesAt_redeclared_cases {i : Nat} {x raw : String} {init : Node}
    (h : GivesAt rootedOnly source (redeclared base step) i x init raw) :
    i = 2 ∧ init.isDynamic = false ∨ i = 5 ∧ init = redeclaredSum base step := by
  obtain ⟨n, hn, ⟨span, id, rfl, -⟩, -⟩ := h
  rw [visited_redeclared, preorder_redeclared] at hn
  have hlt : i < 10 := (List.getElem?_eq_some_iff.mp hn).1
  interval_cases i <;> simp [redeclared, redeclaredSum] at hn
  · obtain ⟨-, -, rfl⟩ := hn
    exact Or.inl ⟨rfl, rfl⟩
  · obtain ⟨-, -, rfl⟩ := hn
    exact Or.inr ⟨rfl, rfl⟩

theorem boundAt_redeclared :
    (boundAt rootedOnly source (redeclared base step) 5).get? "p" = some base := by
  refine (get?_boundAt_iff rfl rfl).mpr ⟨2, by decide,
    ⟨.literal ⟨8, base.utf8ByteSize + 10⟩ (.string base), ?_⟩, ?_⟩
  · exact (givesAt_iff (by rw [visited_redeclared, preorder_redeclared]; rfl)).mpr
      ⟨⟨_, _, rfl, rfl⟩, rfl⟩
  · intro j hj hlt init other hgives
    rcases givesAt_redeclared_cases hgives with ⟨rfl, -⟩ | ⟨rfl, -⟩
    · exact absurd hlt (by decide)
    · exact absurd hj (by decide)

theorem givesAt_redeclared :
    GivesAt rootedOnly source (redeclared base step) 5 "p" (redeclaredSum base step)
      (base ++ step) := by
  refine (givesAt_iff (by rw [visited_redeclared, preorder_redeclared]; rfl)).mpr
    ⟨⟨_, _, rfl, rfl⟩, ?_⟩
  rw [resolve_redeclaredSum, boundAt_redeclared, Option.getD_some]

/-- The value of the sum once its own name is bound. -/
theorem resolve_redeclared_again :
    (redeclaredSum base step).resolve
      ((boundAt rootedOnly source (redeclared base step) 5).bind "p" (base ++ step)) =
        some (base ++ step ++ step) := by
  rw [resolve_redeclaredSum, Bindings.get?_bind, if_pos rfl, Option.getD_some]

/-- The walk comes to the sum when its name is bound, and offers it
with the value that it has by then. -/
theorem exists_report_redeclared
    (hrep : UrlUse.Reportable rootedOnly (normalizeValue (base ++ step ++ step)) .plain) :
    ∃ u ∈ (walk rootedOnly source (redeclared base step)).2.urls,
      u.span = (redeclaredSum base step).span := by
  have hname : (visited rootedOnly (redeclared base step))[6]? =
      some (.identifier ⟨base.utf8ByteSize + 12, base.utf8ByteSize + 13⟩ "p") := by
    rw [visited_redeclared, preorder_redeclared]
    rfl
  have hsplit : visited rootedOnly (redeclared base step) =
      (visited rootedOnly (redeclared base step)).take 7 ++ redeclaredSum base step
        :: (visited rootedOnly (redeclared base step)).drop 8 := by
    rw [visited_redeclared, preorder_redeclared]
    rfl
  have hvalue : (redeclaredSum base step).resolve
      (boundAt rootedOnly source (redeclared base step) 7) = some (base ++ step ++ step) := by
    rw [boundAt_succ_of_identifier rfl hname, boundAt_succ_of_givesAt rfl rfl givesAt_redeclared]
    exact resolve_redeclared_again
  have hoffer : UrlUse.offerOf rootedOnly.analysis
      (memoryAt rootedOnly source (redeclared base step) 7).bindings (redeclaredSum base step) =
        some ⟨(redeclaredSum base step).span, base ++ step ++ step, .plain⟩ := by
    rw [← boundAt_eq rfl]
    exact congrArg (Option.map fun value =>
      (⟨(redeclaredSum base step).span, value, .plain⟩ : UrlUse.Offer)) hvalue
  rw [walk_urls rfl, hsplit]
  exact UrlUse.exists_report_of_offer
    (o := ⟨(redeclaredSum base step).span, base ++ step ++ step, .plain⟩) hoffer hrep

end

/-- **An initializer told under its own binding.** The sum is `/ab` and
never anything else. That is too short to be reported; but when the
walk comes to the sum, the name in it is bound to `/ab` already, and
`/abab` is reported. -/
theorem analyzeTree_initializer_rebound :
    let source := "var p = \"/\", p = p + \"ab\";"
    let root := redeclared "/" "ab"
    let sum := redeclaredSum "/" "ab"
    GivesAt rootedOnly source root 5 "p" sum "/ab" ∧ root.IsLone sum.span
      ∧ ∃ u ∈ (analyzeTree rootedOnly source root).urls, u.span = sum.span
        ∧ u.value = "/abab" ∧ u.value ≠ normalizeValue "/ab" := by
  intro source root sum
  have hgives : GivesAt rootedOnly source root 5 "p" sum "/ab" := givesAt_redeclared
  have hlone : root.IsLone sum.span := isLone_redeclared
  have hrep : UrlUse.Reportable rootedOnly (normalizeValue "/abab") .plain := by
    refine reportable_rootedOnly_of .plain ?_ (by decide +kernel) (by decide +kernel)
    simp only [Url.isCandidate, entropy_rootedOnly]
    decide
  have hshort : Url.isCandidate rootedOnly (normalizeValue "/ab") = false := by
    simp only [Url.isCandidate, entropy_rootedOnly]
    decide
  obtain ⟨u, hu, hspan⟩ : ∃ u ∈ (walk rootedOnly source root).2.urls, u.span = sum.span :=
    exists_report_redeclared hrep
  have hne : u.value ≠ normalizeValue "/ab" := by
    obtain ⟨n, o, -, -, -, hreportable, rfl⟩ := exists_comesFrom rfl hu
    intro hvalue
    rw [UrlUse.reported_value] at hvalue
    rw [hvalue] at hreportable
    exact Bool.false_ne_true (hshort.symm.trans hreportable.candidate)
  have hvalue : u.value = "/abab" := by
    rcases value_at_initializer rfl hgives hlone hu hspan with hfirst | ⟨-, hagain⟩
    · exact absurd hfirst hne
    · have hsecond : sum.resolve ((boundAt rootedOnly source root 5).bind "p" "/ab") =
          some "/abab" := resolve_redeclared_again
      rw [hsecond] at hagain
      exact (Option.some.inj hagain).symm
  refine ⟨hgives, hlone, u, mem_analyzeTree_urls.mpr ⟨hu, ?_⟩, hspan, hvalue, hne⟩
  rintro ⟨full, hfull, hpart⟩
  obtain ⟨j, init, hdyn, x, raw, hbuilt, rfl⟩ := (mem_walk_superseding rfl rfl).mp hfull
  rcases givesAt_redeclared_cases hbuilt with ⟨rfl, hstatic⟩ | ⟨rfl, rfl⟩
  · exact Bool.false_ne_true (hstatic.symm.trans hdyn)
  · obtain ⟨-, -, -, hraw⟩ := hbuilt
    obtain ⟨-, -, -, hraw'⟩ := hgives
    rw [hvalue, Option.some.inj (hraw.symm.trans hraw')] at hpart
    exact absurd hpart (by decide)

/-- A sum that is long enough is reported with the value that it has,
though the walk comes by it again. -/
theorem analyzeTree_initializer_segment :
    let source := "var p = \"/api\", p = p + \"/users\";"
    let root := redeclared "/api" "/users"
    let sum := redeclaredSum "/api" "/users"
    GivesAt rootedOnly source root 5 "p" sum "/api/users" ∧ root.IsLone sum.span
      ∧ (∀ u ∈ (analyzeTree rootedOnly source root).urls, u.span = sum.span →
        u.value = "/api/users")
      ∧ ∃ u, (walk rootedOnly source root).2.urls.filter (·.span == sum.span) = [u]
        ∧ u.value = "/api/users" := by
  intro source root sum
  have hgives : GivesAt rootedOnly source root 5 "p" sum "/api/users" := givesAt_redeclared
  have hlone : root.IsLone sum.span := isLone_redeclared
  have hsame : normalizeValue "/api/users" = "/api/users" := by decide
  obtain ⟨hreports, hfirst⟩ := analyzeTree_initializer hgives hlone
  rw [hsame] at hreports hfirst
  refine ⟨hgives, hlone, fun u hu hspan => ?_, hfirst rfl rfl (reportable_rootedOnly .plain)⟩
  rcases hreports u hu hspan with hvalue | ⟨-, hnot, -⟩
  · exact hvalue
  · exact absurd (reportable_rootedOnly .plain) hnot

end Analysis

end ScriptScout
