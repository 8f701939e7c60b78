import Mathlib.Data.List.Chain
import ScriptScout.Proofs.Occurrence
import ScriptScout.Proofs.Stateless

/-!
# Findings in source order

In a tree whose spans nest as they do in a source text, the walk comes
by the nodes in the order in which they start, and what is found at
them is found in that order. One detector reports a part of the node
that it looks at: a compiled document in JSON text is reported under
the span of the text, when the walk comes to the call that decodes it.
What lies between the call and its text is the name of the function,
where that detector finds nothing.

`Anchoring` is what this comes to: a detector reports a node under a
span that starts inside the node and not behind anything below it that
the detector reports as well. From it follows the order for every run
(`Anchoring.scan_ordered`); the induction is over the listing of the
tree (`Anchoring.preorder_ordered`).
-/

namespace ScriptScout

open Analysis

namespace Node

/-! ## Spans that nest -/

/-- A shorthand property whose key and value are two copies of one
leaf. -/
def SharesLeaf : Node → Prop
  | .property _ key value true =>
      key.children = [] ∧ value.children = [] ∧ key.span = value.span
  | _ => False

theorem SharesLeaf.exists_eq {n : Node} (h : n.SharesLeaf) : ∃ span key value,
    n = .property span key value true ∧ key.children = [] ∧ value.children = []
      ∧ key.span = value.span := by
  unfold SharesLeaf at h
  split at h
  · exact ⟨_, _, _, rfl, h⟩
  · cases h

/-- The parts of a node lie inside it, one behind the other. -/
structure PartsInOrder (n : Node) : Prop where
  forward : n.span.start ≤ n.span.stop
  inside : ∀ c ∈ n.children, n.span.start ≤ c.span.start ∧ c.span.stop ≤ n.span.stop
  apart : n.children.IsChain (·.span.stop ≤ ·.span.start) ∨ n.SharesLeaf

instance (n : Node) : Decidable n.SharesLeaf := by
  cases n with
  | property _ key value shorthand =>
      cases shorthand with
      | true => exact decidable_of_iff (key.children.isEmpty ∧ value.children.isEmpty
          ∧ key.span = value.span) (by simp [SharesLeaf])
      | false => exact .isFalse id
  | _ => exact .isFalse id

instance (n : Node) : Decidable n.PartsInOrder :=
  decidable_of_iff (n.span.start ≤ n.span.stop
    ∧ (∀ c ∈ n.children, n.span.start ≤ c.span.start ∧ c.span.stop ≤ n.span.stop)
    ∧ (n.children.IsChain (·.span.stop ≤ ·.span.start) ∨ n.SharesLeaf))
    ⟨fun ⟨hforward, hinside, hapart⟩ => ⟨hforward, hinside, hapart⟩,
      fun ⟨hforward, hinside, hapart⟩ => ⟨hforward, hinside, hapart⟩⟩

/-- The spans of a tree nest as they do in a source text. -/
def WellNested (root : Node) : Prop :=
  ∀ depth n, root.OccursAt depth n → n.PartsInOrder

theorem OccursAt.of_child {root c n : Node} {depth : Nat} (hc : c ∈ root.children)
    (h : c.OccursAt depth n) : root.OccursAt (depth + 1) n := by
  induction h with
  | root => exact .child .root hc
  | child _ hm ih => exact .child ih hm

theorem OccursAt.eq_or_child {root n : Node} {depth : Nat} (h : root.OccursAt depth n) :
    n = root ∨ ∃ c ∈ root.children, ∃ below, c.OccursAt below n := by
  induction h with
  | root => exact Or.inl rfl
  | child _ hm ih =>
      rcases ih with rfl | ⟨c, hc, below, hbelow⟩
      · exact Or.inr ⟨_, hm, 0, .root⟩
      · exact Or.inr ⟨c, hc, below + 1, .child hbelow hm⟩

theorem wellNested_iff {root : Node} :
    root.WellNested ↔ root.PartsInOrder ∧ ∀ c ∈ root.children, c.WellNested := by
  constructor
  · exact fun h => ⟨h 0 root .root, fun c hc depth n hn => h (depth + 1) n (hn.of_child hc)⟩
  · rintro ⟨hroot, hparts⟩ depth n hn
    rcases hn.eq_or_child with rfl | ⟨c, hc, below, hbelow⟩
    · exact hroot
    · exact hparts c hc below n hbelow

namespace WellNested

variable {root : Node}

theorem parts (h : root.WellNested) : root.PartsInOrder := (wellNested_iff.mp h).1

theorem child (h : root.WellNested) {c : Node} (hc : c ∈ root.children) : c.WellNested :=
  (wellNested_iff.mp h).2 c hc

/-- Of two parts the earlier one ends where the later one starts or
before. -/
theorem pairwise (h : root.WellNested)
    (hchain : root.children.IsChain (·.span.stop ≤ ·.span.start)) :
    root.children.Pairwise (·.span.stop ≤ ·.span.start) := by
  have hforward : ∀ c ∈ root.children, c.span.start ≤ c.span.stop :=
    fun c hc => (h.child hc).parts.forward
  generalize root.children = cs at hchain hforward
  induction cs with
  | nil => exact .nil
  | cons c cs ih =>
      have hrest := ih hchain.tail fun d hd => hforward d (List.mem_cons_of_mem _ hd)
      refine List.pairwise_cons.mpr ⟨fun d hd => ?_, hrest⟩
      cases cs with
      | nil => cases hd
      | cons e cs =>
          have hce : c.span.stop ≤ e.span.start := hchain.rel
          have he := hforward e (by simp)
          rcases List.mem_cons.mp hd with rfl | hd
          · exact hce
          · have hed := (List.pairwise_cons.mp hrest).1 d hd
            omega

/-- All that lies below a node lies inside it. -/
theorem inside (h : root.WellNested) {depth : Nat} {n : Node} (hn : n ∈ root.preorder depth) :
    n.WellNested ∧ root.span.start ≤ n.span.start ∧ n.span.stop ≤ root.span.stop := by
  induction depth generalizing root with
  | zero =>
      obtain rfl := List.mem_singleton.mp hn
      exact ⟨h, Nat.le_refl _, Nat.le_refl _⟩
  | succ depth ih =>
      rcases List.mem_cons.mp hn with rfl | hbelow
      · exact ⟨h, Nat.le_refl _, Nat.le_refl _⟩
      · obtain ⟨c, hc, hn⟩ := List.mem_flatMap.mp hbelow
        obtain ⟨hnested, hstart, hstop⟩ := ih (h.child hc) hn
        obtain ⟨hcstart, hcstop⟩ := h.parts.inside c hc
        exact ⟨hnested, Nat.le_trans hcstart hstart, Nat.le_trans hstop hcstop⟩

end WellNested

theorem preorder_of_leaf {n : Node} (h : n.children = []) (depth : Nat) :
    n.preorder depth = [n] := by
  cases depth with
  | zero => rfl
  | succ depth => rw [preorder, h, List.flatMap_nil]

end Node

/-! ## Where findings stand -/

/-- Where a detector reports the nodes at which it may report: under a
span that starts inside the node, and not behind anything below the
node at which it may report as well. -/
structure Anchoring (speaks : Node → Bool) (anchor : Node → Span) : Prop where
  leaf : ∀ n : Node, n.children = [] → anchor n = n.span
  inside : ∀ n : Node, n.WellNested →
    n.span.start ≤ (anchor n).start ∧ (anchor n).start ≤ n.span.stop
  below : ∀ n : Node, n.WellNested → speaks n = true → ∀ c ∈ n.children, ∀ depth,
    ∀ m ∈ c.preorder depth, speaks m = true → (anchor n).start ≤ m.span.start

namespace Anchoring

/-- A node that is reported itself. -/
theorem self : Anchoring (fun _ => true) Node.span where
  leaf _ _ := rfl
  inside _ h := ⟨Nat.le_refl _, h.parts.forward⟩
  below _ h _ c hc _ _ hm _ :=
    Nat.le_trans (h.parts.inside c hc).1 ((h.child hc).inside hm).2.1

variable {speaks : Node → Bool} {anchor : Node → Span}

/-- Two nodes below two parts of which one is behind the other. -/
theorem across (ha : Anchoring speaks anchor) {c d n m : Node} {depth : Nat}
    (hc : c.WellNested) (hd : d.WellNested) (hcd : c.span.stop ≤ d.span.start)
    (hn : n ∈ c.preorder depth) (hm : m ∈ d.preorder depth) :
    (anchor n).start ≤ (anchor m).start := by
  obtain ⟨hnested, -, hstop⟩ := hc.inside hn
  obtain ⟨hnested', hstart, -⟩ := hd.inside hm
  have hfirst := (ha.inside n hnested).2
  have hsecond := (ha.inside m hnested').1
  omega

/-- Two leaves that share a span. -/
theorem across_leaves (ha : Anchoring speaks anchor) {c d n m : Node} {depth : Nat}
    (hc : c.children = []) (hd : d.children = []) (hcd : c.span = d.span)
    (hn : n ∈ c.preorder depth) (hm : m ∈ d.preorder depth) :
    (anchor n).start ≤ (anchor m).start := by
  rw [Node.preorder_of_leaf hc, List.mem_singleton] at hn
  rw [Node.preorder_of_leaf hd, List.mem_singleton] at hm
  rw [hn, hm, ha.leaf c hc, ha.leaf d hd, hcd]

/-- The walk comes by the anchors in order. -/
theorem preorder_ordered (ha : Anchoring speaks anchor) {root : Node} (h : root.WellNested)
    (depth : Nat) : (root.preorder depth).Pairwise fun n m =>
      speaks n = true → speaks m = true → (anchor n).start ≤ (anchor m).start := by
  induction depth generalizing root with
  | zero => exact List.pairwise_singleton _ _
  | succ depth ih =>
      refine List.pairwise_cons.mpr ⟨fun m hm hspeaks hspeaks' => ?_, ?_⟩
      · obtain ⟨c, hc, hm⟩ := List.mem_flatMap.mp hm
        have hbelow := ha.below root h hspeaks c hc depth m hm hspeaks'
        exact Nat.le_trans hbelow (ha.inside m ((h.child hc).inside hm).1).1
      · refine List.pairwise_flatMap.mpr ⟨fun c hc => ih (h.child hc), ?_⟩
        rcases h.parts.apart with hchain | hshared
        · refine (h.pairwise hchain).imp_of_mem fun hc hd hcd n hn m hm _ _ => ?_
          exact ha.across (h.child hc) (h.child hd) hcd hn hm
        · obtain ⟨span, key, value, rfl, hkey, hvalue, hspan⟩ := hshared.exists_eq
          refine List.pairwise_pair.mpr fun n hn m hm _ _ => ?_
          exact ha.across_leaves hkey hvalue hspan hn hm

section

variable {α : Type} {span : α → Span} {f : Node → State → State × List α}

/-- The spans of what a run reports are anchors of nodes that it came
by, in the order in which it did. -/
theorem scan_sublist
    (hf : ∀ n s, ((f n s).2.map span).Sublist (([n].filter speaks).map anchor))
    (ns : List Node) (s : State) :
    ((scan f ns s).2.map span).Sublist ((ns.filter speaks).map anchor) := by
  induction ns generalizing s with
  | nil => exact List.Sublist.refl _
  | cons n ns ih =>
      rw [scan_cons, List.map_append, ← List.singleton_append, List.filter_append,
        List.map_append]
      exact (hf n s).append (ih _)

theorem scan_ordered (ha : Anchoring speaks anchor)
    (hf : ∀ n s, ((f n s).2.map span).Sublist (([n].filter speaks).map anchor))
    {root : Node} (h : root.WellNested) (depth : Nat) (s : State) :
    (scan f (root.preorder depth) s).2.Pairwise fun a b => (span a).start ≤ (span b).start := by
  have hnodes : ((root.preorder depth).filter speaks).Pairwise fun n m =>
      (anchor n).start ≤ (anchor m).start :=
    List.pairwise_filter.mpr (ha.preorder_ordered h depth)
  have hstarts := (scan_sublist hf (root.preorder depth) s).map Span.start
  rw [List.map_map, List.map_map] at hstarts
  exact List.pairwise_map.mp ((List.pairwise_map.mpr hnodes).sublist hstarts)

end

end Anchoring

/-! ## Where each detector reports -/

theorem oncePerSpan_sublist {α : Type} {span : α → Span} {c : Category}
    {isCandidate : Node → Bool} {recognize? : Node → Option α}
    (hrec : ∀ {n a}, recognize? n = some a → isCandidate n = true ∧ span a = n.span)
    (n : Node) (s : State) :
    ((oncePerSpan c isCandidate recognize? n s).2.map span).Sublist [n.span] := by
  unfold oncePerSpan
  split
  · cases ha : recognize? n with
    | none => exact List.nil_sublist _
    | some a => exact (hrec ha).2 ▸ List.Sublist.refl _
  · exact List.nil_sublist _

theorem EventHook.step_sublist (scene : Scene) (n : Node) (s : State) :
    ((EventHook.step scene n s).2.map (·.span)).Sublist [n.span] := by
  have hreport (kind? : Option EventKind) :
      ((kind?.map (report scene n)).toList.map (·.span)).Sublist [n.span] := by
    cases kind? with
    | none => exact List.nil_sublist _
    | some kind => exact List.Sublist.refl _
  cases n with
  | call span callee arguments =>
      simp only [step]
      split
      · exact List.nil_sublist _
      · exact hreport _
  | assignment span operator target value =>
      rw [step_assignment]
      split
      · exact List.nil_sublist _
      · exact hreport _
  | member span receiver name computed =>
      simp only [step]
      split
      · exact hreport (some .location)
      · exact List.nil_sublist _
  | _ => exact List.nil_sublist _

namespace GraphqlText

/-- Names and accesses by name are no documents. -/
def speaks : Node → Bool
  | .identifier .. | .member .. => false
  | _ => true

/-- Where a node is reported: a call that decodes a document is
reported under the text. -/
def anchor : Node → Span
  | .call span callee arguments =>
      ((decodedDocument? callee arguments).map (·.1)).getD span
  | n => n.span

theorem anchor_call {span : Span} {callee : Node} {arguments : List Node}
    {document : Span × String} (h : decodedDocument? callee arguments = some document) :
    anchor (.call span callee arguments) = document.1 := by
  rw [anchor, h]
  rfl

theorem report_sublist (scene : Scene) (span : Span) (value : String) (s : State) :
    ((report scene span value s).2.map (·.span)).Sublist [span] := by
  unfold report
  split
  · exact List.nil_sublist _
  · exact List.Sublist.refl _

theorem ReportsUnder.speaks {n m : Node} (h : ReportsUnder n m) : speaks n = true := by
  cases h with
  | self hbears =>
      cases n with
      | identifier => cases hbears
      | member => cases hbears
      | _ => rfl
  | decoded => rfl

theorem ReportsUnder.span_eq_anchor {n m : Node} (h : ReportsUnder n m) : m.span = anchor n := by
  cases h with
  | self hbears =>
      cases n with
      | call => cases hbears
      | _ => rfl
  | decoded hdecoded _ => exact (anchor_call hdecoded).symm

theorem step_sublist (scene : Scene) (n : Node) (s : State) :
    ((GraphqlText.step scene n s).2.map (·.span)).Sublist
      (([n].filter speaks).map anchor) := by
  obtain ⟨t, -, heq | ⟨m, value, hm, heq⟩⟩ := step_cases scene n s
  · rw [heq]
    exact List.nil_sublist _
  · have hspeaks : [n].filter speaks = [n] := List.filter_cons_of_pos hm.speaks
    rw [heq, hspeaks, hm.span_eq_anchor]
    exact report_sublist scene (anchor n) value t

/-- A node is reported under its own span, or it decodes its first
argument and is reported under that one's. -/
theorem anchor_cases (n : Node) :
    anchor n = n.span ∨ ∃ span callee argument rest, n = .call span callee (argument :: rest)
      ∧ callee.isMemberOf "JSON" "parse" = true ∧ anchor n = argument.span := by
  cases n with
  | call span callee arguments =>
      cases h : decodedDocument? callee arguments with
      | none => exact Or.inl (by rw [anchor, h]; rfl)
      | some document =>
          have hanchor : anchor (.call span callee arguments) = document.1 := anchor_call h
          simp only [decodedDocument?, Option.bind_eq_bind, Option.bind_eq_some_iff,
            Option.guard_eq_some', Option.pure_def, Option.some.injEq, exists_const] at h
          obtain ⟨hcallee, argument, hhead, _, _, _, _, text, _, rfl⟩ := h
          obtain ⟨rest, rfl⟩ := List.head?_eq_some_iff.mp hhead
          exact Or.inr ⟨span, callee, argument, rest, rfl, hcallee, hanchor⟩
  | _ => exact Or.inl rfl

/-- Nothing in the name of a function is reported. -/
theorem not_speaks_of_isMemberOf {callee m : Node} {receiver name : String} {depth : Nat}
    (h : callee.isMemberOf receiver name = true) (hm : m ∈ callee.preorder depth) :
    speaks m = false := by
  obtain ⟨object, hmember, hobject⟩ := Node.isMemberOf_iff.mp h
  obtain ⟨span, object', property, rfl⟩ := Node.exists_eq_member
    (Node.memberName?_iff.mpr ⟨object, hmember⟩)
  simp only [Node.member?, Option.map_eq_some_iff, Prod.mk.injEq] at hmember
  obtain ⟨_, hproperty, rfl, rfl⟩ := hmember
  obtain ⟨_, rfl⟩ := Node.eq_identifier hproperty
  obtain ⟨_, rfl⟩ := Node.eq_identifier hobject
  cases depth with
  | zero =>
      obtain rfl := List.mem_singleton.mp hm
      rfl
  | succ depth =>
      rcases List.mem_cons.mp hm with rfl | hbelow
      · rfl
      · obtain ⟨part, hpart, hm⟩ := List.mem_flatMap.mp hbelow
        rcases List.mem_pair.mp hpart with rfl | rfl
        · rw [Node.preorder_of_leaf rfl, List.mem_singleton] at hm
          rw [hm, speaks]
        · rw [Node.preorder_of_leaf rfl, List.mem_singleton] at hm
          rw [hm, speaks]

theorem anchoring : Anchoring speaks anchor where
  leaf n h := by
    cases n with
    | call => cases h
    | _ => rfl
  inside n h := by
    rcases anchor_cases n with hself | ⟨span, callee, argument, rest, rfl, -, hanchor⟩
    · exact hself ▸ Anchoring.self.inside n h
    · have hmem : argument ∈ (Node.call span callee (argument :: rest)).children := by
        simp [Node.children]
      obtain ⟨hstart, hstop⟩ := h.parts.inside argument hmem
      rw [hanchor]
      exact ⟨hstart, Nat.le_trans (h.child hmem).parts.forward hstop⟩
  below n h hspeaks c hc depth m hm hspeaks' := by
    rcases anchor_cases n with hself | ⟨span, callee, argument, rest, rfl, hcallee, hanchor⟩
    · exact hself ▸ Anchoring.self.below n h rfl c hc depth m hm rfl
    · have hstart := ((h.child hc).inside hm).2.1
      rw [hanchor]
      rcases List.mem_cons.mp hc with rfl | hargs
      · rw [not_speaks_of_isMemberOf hcallee hm] at hspeaks'
        cases hspeaks'
      · rcases List.mem_cons.mp hargs with rfl | hlater
        · exact hstart
        · have hchain := h.parts.apart.resolve_right id
          have hbehind := (List.pairwise_cons.mp (h.pairwise hchain).tail).1 c hlater
          have hforward := (h.child (List.mem_cons_of_mem _ (List.mem_cons_self ..))).parts.forward
          omega

end GraphqlText

/-! ## Runs -/

namespace Analysis

/-- What holds of the lone run of a detector that retracts nothing holds
of its findings. -/
theorem of_pairwise {d : Detector} {R : d.Found → d.Found → Prop} {settings : Settings}
    {source : String} {root : Node}
    (h : (scan (d.look (Scene.of source settings))
      (root.preorder settings.analysis.effectiveDepth) {}).2.Pairwise R) :
    ((analyzeTree settings source root).of d).Pairwise R := by
  cases hon : d.isEnabled settings.modules with
  | false => exact analyzeTree_of_disabled hon source root ▸ List.Pairwise.nil
  | true =>
      rw [analyzeTree_of_enabled hon, visited_eq_preorder]
      exact h.sublist (d.settle_sublist _)

/-- In a tree whose spans nest, queries, sinks, events and requests are
each found in the order in which they start. -/
theorem analyzeTree_in_source_order {root : Node} (h : root.WellNested) (settings : Settings)
    (source : String) :
    let found := analyzeTree settings source root
    found.graphql.Pairwise (·.span.start ≤ ·.span.start)
      ∧ found.domSinks.Pairwise (·.span.start ≤ ·.span.start)
      ∧ found.events.Pairwise (·.span.start ≤ ·.span.start)
      ∧ found.httpCalls.Pairwise (·.span.start ≤ ·.span.start) := by
  let scene := Scene.of source settings
  refine ⟨of_pairwise (d := .graphql) ?_, of_pairwise (d := .domSinks) ?_,
    of_pairwise (d := .events) ?_, of_pairwise (d := .httpCalls) ?_⟩
  · exact GraphqlText.anchoring.scan_ordered (GraphqlText.step_sublist scene) h _ {}
  · exact Anchoring.self.scan_ordered (oncePerSpan_sublist Sink.isCandidate_of_recognize?) h _ {}
  · exact Anchoring.self.scan_ordered (EventHook.step_sublist scene) h _ {}
  · exact Anchoring.self.scan_ordered (oncePerSpan_sublist HttpCall.isCandidate_of_recognize?)
      h _ {}

/-- The call that writes an object with one shorthand property. -/
def shorthandWrite : Node :=
  .call ⟨5, 24⟩
    (.member ⟨5, 19⟩ (.identifier ⟨5, 13⟩ "document") (.identifier ⟨14, 19⟩ "write") false)
    [.object ⟨20, 23⟩
      [.property ⟨21, 22⟩ (.identifier ⟨21, 22⟩ "x") (.identifier ⟨21, 22⟩ "x") true]]

theorem wellNested_shorthandWrite : shorthandWrite.WellNested := by
  have hname (span : Span) (name : String) (h : span.start ≤ span.stop) :
      (Node.identifier span name).WellNested :=
    Node.wellNested_iff.mpr ⟨⟨h, nofun, .inl .nil⟩, nofun⟩
  refine Node.wellNested_iff.mpr ⟨by decide, List.forall_mem_cons.mpr ⟨?_,
    List.forall_mem_singleton.mpr ?_⟩⟩
  · exact Node.wellNested_iff.mpr ⟨by decide, List.forall_mem_cons.mpr
      ⟨hname _ _ (by decide), List.forall_mem_singleton.mpr (hname _ _ (by decide))⟩⟩
  · refine Node.wellNested_iff.mpr ⟨by decide, List.forall_mem_singleton.mpr ?_⟩
    exact Node.wellNested_iff.mpr ⟨by decide, List.forall_mem_cons.mpr
      ⟨hname _ _ (by decide), List.forall_mem_singleton.mpr (hname _ _ (by decide))⟩⟩

/-- Of two nested sinks the outer one comes first. -/
theorem analyzeTree_in_source_order_nested :
    let settings : Settings := { analysis := { maxTraversalDepth := 2 } }
    let source := "eval(document.write(\x7bx\x7d))"
    let root := Node.call ⟨0, 25⟩ (.identifier ⟨0, 4⟩ "eval") [shorthandWrite]
    let found := analyzeTree settings source root
    root.WellNested ∧ found.domSinks.map (·.span.start) = [0, 5]
      ∧ found.domSinks.Pairwise (·.span.start ≤ ·.span.start) := by
  intro settings source root found
  have hnested : root.WellNested := by
    refine Node.wellNested_iff.mpr ⟨by decide, List.forall_mem_cons.mpr ⟨?_,
      List.forall_mem_singleton.mpr wellNested_shorthandWrite⟩⟩
    exact Node.wellNested_iff.mpr ⟨by decide, nofun⟩
  refine ⟨hnested, ?_, (analyzeTree_in_source_order hnested settings source).2.1⟩
  rw [analyzeTree_domSinks source root rfl]
  decide +kernel

end Analysis

end ScriptScout
