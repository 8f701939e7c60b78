import ScriptScout.Proofs.GraphqlStep
import ScriptScout.Proofs.TemplateKind

/-!
# Tagged templates are reported once

A tagged template can be reported at two nodes: at the tagged expression,
if the tag is one for queries, and at the template behind the tag, which
is visited on its own and would pass as an untagged one. Only the first
ever happens. The tagged expression is visited before its template and
marks it, and no mark is taken back, so the later visit is passed over.

This needs spans that tell nodes apart, since marks are made on spans.
`Node.SpansApart` asks this of the nodes under which queries are reported.
Then a report under the span of a node is made at that node only
(`GraphqlText.eq_of_reportsUnder`), and the template has not been visited
before its tagged expression, whether or not the bound lets the walk get
to it at all (`Node.SpansApart.part_not_before`).
-/

namespace ScriptScout

open ScriptScout.Analysis (scan scan_append scan_cons scan_induction)

/-! ## Nodes that are visited once -/

namespace Node

section

variable {p : Node → Bool} {root : Node}

/-- What stands in two parts of a list is there twice. -/
theorem SpansApart.not_mem_both (h : SpansApart p root) {depth : Nat} {xs ys : List Node}
    (heq : root.preorder depth = xs ++ ys) {n : Node} (hn : p n = true) (hx : n ∈ xs) :
    n ∉ ys := by
  intro hy
  have hnodup := h depth
  rw [heq, List.filter_append, List.map_append, List.nodup_append] at hnodup
  have hspan {zs : List Node} (hz : n ∈ zs) : n.span ∈ (zs.filter p).map span :=
    List.mem_map_of_mem (List.mem_filter.mpr ⟨hz, hn⟩)
  exact hnodup.2.2 _ (hspan hx) _ (hspan hy) rfl

/-- A node is visited once. -/
theorem SpansApart.not_mem_around (h : SpansApart p root) {depth : Nat} {n : Node}
    {before after : List Node} (heq : root.preorder depth = before ++ n :: after)
    (hn : p n = true) : n ∉ before ∧ n ∉ after := by
  constructor
  · intro hbefore
    exact h.not_mem_both heq hn hbefore (List.mem_cons_self ..)
  · have hsplit : root.preorder depth = (before ++ [n]) ++ after := by
      rw [heq, List.append_assoc, List.singleton_append]
    exact h.not_mem_both hsplit hn (List.mem_append_right _ (List.mem_singleton.mpr rfl))

/-- A part of a node is not visited before it. One level further down
the listing has the part behind the node, and so not in front of it. -/
theorem SpansApart.part_not_before (h : SpansApart p root) {depth : Nat} {n c : Node}
    {before after : List Node} (heq : root.preorder depth = before ++ n :: after)
    (hc : c ∈ n.children) (hpc : p c = true) : c ∉ before := by
  intro hbefore
  obtain ⟨below, post, before', post', -, hdeeper, hsub, -⟩ := exists_subtree heq
  rw [List.append_assoc] at hdeeper
  have hpart : c ∈ n.preorder (below + 1) :=
    child_mem_preorder_succ (mem_preorder_self below n) hc
  exact h.not_mem_both hdeeper hpc (hsub.subset hbefore) (List.mem_append_left _ hpart)

end

end Node

/-! ## Looks that report nothing under a span -/

namespace GraphqlText

open ScriptScout.Node (SpansApart)

/-- A template that is marked stays marked. -/
theorem isMarked_templates_step (scene : Scene) (n : Node) {s : State} {y : Span}
    (h : s.isMarked .graphqlTemplates y = true) :
    (step scene n s).1.isMarked .graphqlTemplates y = true := by
  obtain ⟨t, hmarks, heq | ⟨m, value, -, heq⟩⟩ := step_cases scene n s
  · rw [heq]
    exact hmarks.isMarked_templates h
  · rw [heq, isMarked_templates_report]
    exact hmarks.isMarked_templates h

theorem isMarked_inner_step (scene : Scene) (span : Span) (tag : Node) (inner : Span)
    (quasis : List Quasi) (expressions : List Node) (s : State) :
    (step scene (.tagged span tag (.template inner quasis expressions)) s).1.isMarked
      .graphqlTemplates inner = true := by
  have hmarked : (s.mark .graphqlTemplates inner).isMarked .graphqlTemplates inner = true := by
    rw [State.isMarked_mark_self, beq_self_eq_true, Bool.true_or]
  rw [step_tagged]
  split
  · rw [isMarked_templates_report]
    exact hmarked
  · exact hmarked

/-- A look at the node reports nothing under the span: there is nothing
to report there, or it is the span of a template that is marked. -/
def Quiet (s : State) (y : Span) (n : Node) : Prop :=
  (∀ m, ReportsUnder n m → m.span ≠ y)
    ∨ s.isMarked .graphqlTemplates y = true
      ∧ ∃ quasis expressions, n = .template y quasis expressions

theorem step_quiet (scene : Scene) {s : State} {y : Span} {n : Node} (h : Quiet s y n) :
    (∀ f ∈ (step scene n s).2, f.span ≠ y)
      ∧ (step scene n s).1.isMarked .graphql y = s.isMarked .graphql y := by
  rcases h with hnone | ⟨hmarked, quasis, expressions, rfl⟩
  · obtain ⟨t, hmarks, heq | ⟨m, value, hm, heq⟩⟩ := step_cases scene n s
    · rw [heq]
      exact ⟨List.forall_mem_nil _, hmarks.isMarked_graphql y⟩
    · have hspan := hnone m hm
      rw [heq]
      constructor
      · intro f hf
        rw [eq_finding_of_mem_report hf]
        exact hspan
      · rw [isMarked_graphql_report hspan, hmarks.isMarked_graphql]
  · rw [step_template_of_marked scene quasis expressions hmarked]
    exact ⟨List.forall_mem_nil _, rfl⟩

/-- The same of a run. What is marked at its start stays marked, so a
template that is passed over then is passed over later. -/
theorem scan_quiet (scene : Scene) {s : State} {y : Span} {ns : List Node}
    (h : ∀ n ∈ ns, Quiet s y n) :
    (∀ f ∈ (scan (step scene) ns s).2, f.span ≠ y)
      ∧ (scan (step scene) ns s).1.isMarked .graphql y = s.isMarked .graphql y := by
  suffices hrun : (s.isMarked .graphqlTemplates y = true →
        (scan (step scene) ns s).1.isMarked .graphqlTemplates y = true)
      ∧ (∀ f ∈ (scan (step scene) ns s).2, f.span ≠ y)
      ∧ (scan (step scene) ns s).1.isMarked .graphql y = s.isMarked .graphql y from hrun.2
  refine scan_induction (step scene) (P := fun t out =>
    (s.isMarked .graphqlTemplates y = true → t.isMarked .graphqlTemplates y = true)
      ∧ (∀ f ∈ out, f.span ≠ y) ∧ t.isMarked .graphql y = s.isMarked .graphql y)
    ⟨id, List.forall_mem_nil _, rfl⟩ ?_
  rintro n hn t out ⟨hkeeps, hout, hmark⟩
  have hquiet : Quiet t y n := (h n hn).imp_right fun hmarked => ⟨hkeeps hmarked.1, hmarked.2⟩
  obtain ⟨hfound, hstep⟩ := step_quiet scene hquiet
  refine ⟨fun hs => isMarked_templates_step scene n (hkeeps hs), ?_, hstep.trans hmark⟩
  intro f hf
  rcases List.mem_append.mp hf with hbefore | hnow
  · exact hout f hbefore
  · exact hfound f hnow

/-- Under the span of a node that is no literal only the node itself is
reported. -/
theorem eq_of_reportsUnder {root : Node} (hapart : SpansApart bearsText root) {limit : Nat}
    {n m k : Node} (hn : n ∈ root.preorder limit) (h : ReportsUnder n m)
    (hk : k ∈ root.preorder (limit + 1)) (hbears : bearsText k = true)
    (hkind : ∀ span value, k ≠ .literal span value) (hspan : m.span = k.span) : n = k := by
  have hm : m ∈ root.preorder (limit + 1) := by
    rcases h.self_or_child with rfl | hpart
    · exact Node.mem_preorder_succ hn
    · exact Node.child_mem_preorder_succ hn hpart
  have heq : m = k := hapart.eq_of_span hm hk h.bearsText hbears hspan
  cases h with
  | self => exact heq
  | decoded => exact absurd heq.symm (hkind _ _)

/-! ## Runs over a tagged template -/

section

variable {root : Node} {limit : Nat} {before after : List Node} {span inner : Span} {tag : Node}
  {quasis : List Quasi} {expressions : List Node}

/-- Around a tagged template nothing is reported under its span. -/
theorem quiet_around (hapart : SpansApart bearsText root)
    (heq : root.preorder limit =
      before ++ .tagged span tag (.template inner quasis expressions) :: after)
    {n : Node} (hn : n ∈ before ∨ n ∈ after) (s : State) : Quiet s span n := by
  refine Or.inl fun m hm hspan => ?_
  have hvisited : n ∈ root.preorder limit := by
    rw [heq]
    exact hn.elim (List.mem_append_left _)
      fun h => List.mem_append_right _ (List.mem_cons_of_mem _ h)
  have hself : Node.tagged span tag (.template inner quasis expressions)
      ∈ root.preorder (limit + 1) := by
    refine Node.mem_preorder_succ ?_
    rw [heq]
    exact List.mem_append_right _ (List.mem_cons_self ..)
  obtain rfl := eq_of_reportsUnder hapart hvisited hm hself rfl (fun _ _ h => nomatch h) hspan
  obtain ⟨hbefore, hafter⟩ := hapart.not_mem_around heq rfl
  exact hn.elim hbefore hafter

/-- Nothing but the template behind the tag is reported under its
span. -/
theorem eq_template_of_reportsUnder (hapart : SpansApart bearsText root)
    (hvisited : .tagged span tag (.template inner quasis expressions) ∈ root.preorder limit)
    {n m : Node} (hn : n ∈ root.preorder limit) (hm : ReportsUnder n m) (hspan : m.span = inner) :
    n = .template inner quasis expressions := by
  have hpart : Node.template inner quasis expressions ∈ root.preorder (limit + 1) :=
    Node.child_mem_preorder_succ hvisited (List.mem_cons_of_mem _ (List.mem_cons_self ..))
  exact eq_of_reportsUnder hapart hn hm hpart rfl (fun _ _ h => nomatch h) hspan

/-- The template behind a tag is not reported by itself: it comes after
its tagged expression, which has marked it by then. -/
theorem span_ne_inner_of_mem_scan (scene : Scene) (hapart : SpansApart bearsText root)
    (heq : root.preorder limit =
      before ++ .tagged span tag (.template inner quasis expressions) :: after) :
    ∀ f ∈ (scan (step scene) (root.preorder limit) {}).2, f.span ≠ inner := by
  have hmem {n : Node} : n ∈ root.preorder limit ↔ n ∈ before
      ∨ n = .tagged span tag (.template inner quasis expressions) ∨ n ∈ after := by
    rw [heq, List.mem_append, List.mem_cons]
  have htemplate {n m : Node} := @eq_template_of_reportsUnder root limit span inner tag quasis
    expressions hapart (hmem.mpr (Or.inr (Or.inl rfl))) n m
  have hbefore : ∀ n ∈ before, Quiet {} inner n := by
    intro n hn
    refine Or.inl fun m hm hspan => ?_
    obtain rfl := htemplate (hmem.mpr (Or.inl hn)) hm hspan
    exact hapart.part_not_before heq (List.mem_cons_of_mem _ (List.mem_cons_self ..)) rfl hn
  have hself (s : State) :
      Quiet s inner (.tagged span tag (.template inner quasis expressions)) := by
    refine Or.inl fun m hm hspan => ?_
    cases htemplate (hmem.mpr (Or.inr (Or.inl rfl))) hm hspan
  have hafter {s : State} (hs : s.isMarked .graphqlTemplates inner = true) :
      ∀ n ∈ after, Quiet s inner n := by
    intro n hn
    by_cases hn' : n = .template inner quasis expressions
    · exact Or.inr ⟨hs, quasis, expressions, hn'⟩
    · exact Or.inl fun m hm hspan => hn' (htemplate (hmem.mpr (Or.inr (Or.inr hn))) hm hspan)
  intro f hf
  rw [heq, scan_append, scan_cons] at hf
  rcases List.mem_append.mp hf with hf | hf
  · exact (scan_quiet scene hbefore).1 f hf
  · rcases List.mem_append.mp hf with hf | hf
    · exact (step_quiet scene (hself _)).1 f hf
    · exact (scan_quiet scene (hafter (isMarked_inner_step ..))).1 f hf

/-- Under the span of a tagged template is reported what the look at it
reports, with the span still free. -/
theorem filter_scan_span (scene : Scene) (hapart : SpansApart bearsText root)
    (heq : root.preorder limit =
      before ++ .tagged span tag (.template inner quasis expressions) :: after) :
    ∃ s : State, s.isMarked .graphql span = false
      ∧ (scan (step scene) (root.preorder limit) {}).2.filter (·.span = span) =
        (step scene (.tagged span tag (.template inner quasis expressions)) s).2.filter
          (·.span = span) := by
  have hnone {fs : List (Finding GraphqlKind)} (h : ∀ f ∈ fs, f.span ≠ span) :
      fs.filter (·.span = span) = [] := by
    rw [List.filter_eq_nil_iff]
    intro f hf hspan
    exact h f hf (of_decide_eq_true hspan)
  obtain ⟨hbefore, hfree⟩ := scan_quiet scene fun n hn =>
    quiet_around hapart heq (Or.inl hn) {}
  have hafter (s : State) := (scan_quiet scene (s := s) fun n hn =>
    quiet_around hapart heq (Or.inr hn) s).1
  refine ⟨(scan (step scene) before {}).1, hfree.trans (State.isMarked_empty ..), ?_⟩
  rw [heq, scan_append, scan_cons, List.filter_append, List.filter_append, hnone hbefore,
    hnone (hafter _), List.nil_append, List.append_nil]

end

/-! ## Tags -/

/-- The name of a tag; a tag that is no identifier goes by its text. -/
inductive Named (source : String) : Node → String → Prop
  | identifier (span : Span) (name : String) : Named source (.identifier span name) name
  | text {tag : Node} (h : ∀ span name, tag ≠ .identifier span name) :
      Named source tag (tag.span.text source)

/-- The tag is one for queries. -/
def TagsQuery (source : String) (tag : Node) : Prop :=
  ∃ name ∈ ["gql", "graphql", "GraphQL"], Named source tag name

theorem named_iff {settings : Settings} {source name : String} {tag : Node} :
    Named source tag name ↔ tagName (Scene.of source settings) tag = name := by
  constructor
  · rintro (⟨span, name⟩ | hother)
    · rfl
    · cases tag with
      | identifier span name => exact absurd rfl (hother span name)
      | _ => rfl
  · rintro rfl
    cases tag with
    | identifier span name => exact .identifier span name
    | _ => exact .text fun _ _ h => nomatch h

theorem tagsQuery_iff (settings : Settings) {source : String} {tag : Node} :
    TagsQuery source tag ↔ tagNames.contains (tagName (Scene.of source settings) tag) = true := by
  rw [List.contains_iff_mem]
  constructor
  · rintro ⟨name, hname, htag⟩
    rw [named_iff.mp htag]
    exact hname
  · intro hname
    exact ⟨_, hname, named_iff.mpr rfl⟩

theorem report_of_free (scene : Scene) {span : Span} (value : String) {s : State}
    (h : s.isMarked .graphql span = false) :
    (report scene span value s).2 = [scene.finding span value (Graphql.kindOf value)] := by
  simp only [report, h, Bool.false_eq_true, if_false]

end GraphqlText

namespace Analysis

open ScriptScout.GraphqlText (bearsText ownText templateBody TagsQuery)

/-- **A tagged template is reported at most once, and only at the tagged
expression.** Where no two literals, templates, tagged templates and
objects of a tree share a span, nothing is reported under the span of a
template that stands behind a tag, whatever the tag is. Under the span of
the tagged expression there is exactly one finding if the tag is one for
queries and the chunks of the template are accepted, and else there is
none. -/
theorem analyzeTree_tagged_once {settings : Settings} (hon : settings.modules.graphql = true)
    (source : String) {root : Node} (hapart : Node.SpansApart bearsText root)
    {span inner : Span} {tag : Node} {quasis : List Quasi} {expressions : List Node}
    (hvisited : .tagged span tag (.template inner quasis expressions) ∈ visited settings root) :
    let found := (analyzeTree settings source root).graphql
    let accepted := TagsQuery source tag
      ∧ Graphql.isPlausible settings.heuristics (ownText quasis) = true
    (∀ f ∈ found, f.span ≠ inner)
      ∧ (accepted → ∃ f, found.filter (·.span = span) = [f]
        ∧ f.value = templateBody (inner.text source))
      ∧ (¬accepted → ∀ f ∈ found, f.span ≠ span) := by
  intro found accepted
  rw [visited_eq_preorder] at hvisited
  obtain ⟨before, after, heq⟩ := List.append_of_mem hvisited
  have hrun : found = (scan (GraphqlText.step (Scene.of source settings))
      (root.preorder settings.analysis.effectiveDepth) {}).2 := by
    rw [← visited_eq_preorder]
    exact analyzeTree_of_enabled (d := .graphql) hon source root
  have haccepted : accepted ↔ (GraphqlText.tagNames.contains
      (GraphqlText.tagName (Scene.of source settings) tag)
        && GraphqlText.isPlausibleHere (Scene.of source settings) (ownText quasis)) = true := by
    rw [Bool.and_eq_true, ← GraphqlText.tagsQuery_iff]
    rfl
  obtain ⟨s, hfree, hfilter⟩ :=
    GraphqlText.filter_scan_span (Scene.of source settings) hapart heq
  rw [← hrun, GraphqlText.step_tagged] at hfilter
  refine ⟨?_, fun h => ?_, fun h f hf hspan => ?_⟩
  · rw [hrun]
    exact GraphqlText.span_ne_inner_of_mem_scan (Scene.of source settings) hapart heq
  · have hfree' : (s.mark .graphqlTemplates inner).isMarked .graphql span = false := by
      rw [State.isMarked_mark_of_ne (by decide), hfree]
    rw [if_pos (haccepted.mp h), GraphqlText.report_of_free _ _ hfree'] at hfilter
    refine ⟨_, hfilter.trans (List.filter_cons_of_pos (decide_eq_true rfl)), rfl⟩
  · rw [if_neg (mt haccepted.mpr h)] at hfilter
    have hmem : f ∈ found.filter (·.span = span) :=
      List.mem_filter.mpr ⟨hf, decide_eq_true hspan⟩
    rw [hfilter] at hmem
    cases hmem

/-- The chunks of a query with another template behind it. -/
def feedAround : List Quasi := [⟨⟨4, 24⟩, "query Feed \x7b feed \x7d "⟩, ⟨⟨53, 53⟩, ""⟩]

/-- The chunks of a query that no tag for queries stands before. -/
def otherInside : List Quasi := [⟨⟨30, 51⟩, "query Other \x7b other \x7d"⟩]

/-- The text of the two, between the outer backticks. -/
def feedAroundText : String :=
  "query Feed \x7b feed \x7d $\x7bcss\x60query Other \x7b other \x7d\x60\x7d"

/-- A tagged template inside another: of the four spans under which a
query stands, the outermost is the only one with a finding. -/
theorem analyzeTree_tagged_once_nested :
    let source := "gql\x60" ++ feedAroundText ++ "\x60"
    let nested := Node.tagged ⟨26, 52⟩ (.identifier ⟨26, 29⟩ "css")
      (.template ⟨29, 52⟩ otherInside [])
    let root := Node.tagged ⟨0, 54⟩ (.identifier ⟨0, 3⟩ "gql")
      (.template ⟨3, 54⟩ feedAround [nested])
    let found := (analyzeTree {} source root).graphql
    Node.SpansApart bearsText root
      ∧ (∀ f ∈ found, f.span ≠ ⟨3, 54⟩ ∧ f.span ≠ ⟨26, 52⟩ ∧ f.span ≠ ⟨29, 52⟩)
      ∧ ∃ f, found.filter (·.span = ⟨0, 54⟩) = [f] ∧ f.value = feedAroundText := by
  intro source nested root found
  have hapart : Node.SpansApart bearsText root := by
    have hshallow : ∀ depth < 5,
        (((root.preorder depth).filter bearsText).map Node.span).Nodup := by decide
    intro depth
    rcases Nat.lt_or_ge depth 5 with hlt | hge
    · exact hshallow depth hlt
    · -- nothing lies deeper than three levels
      obtain ⟨k, rfl⟩ := Nat.exists_eq_add_of_le' hge
      exact hshallow 4 (by decide)
  have hon : ({} : Settings).modules.graphql = true := rfl
  have hroot : root.OccursAt 0 root := .root
  have hnested : root.OccursAt 2 nested :=
    (hroot.child (List.mem_cons_of_mem _ (List.mem_cons_self ..))).child (List.mem_cons_self ..)
  have hgql : TagsQuery source (.identifier ⟨0, 3⟩ "gql")
      ∧ Graphql.isPlausible {} (ownText feedAround) = true :=
    ⟨⟨"gql", by decide, .identifier _ _⟩, by decide⟩
  have hcss : ¬TagsQuery source (.identifier ⟨26, 29⟩ "css") := by
    rw [GraphqlText.tagsQuery_iff {}]
    decide
  obtain ⟨houter, haccepted, -⟩ := analyzeTree_tagged_once hon source hapart
    (mem_visited.mpr ⟨0, hroot, by decide⟩)
  obtain ⟨hinner, -, hrejected⟩ := analyzeTree_tagged_once hon source hapart
    (mem_visited.mpr ⟨2, hnested, by decide⟩)
  refine ⟨hapart, fun f hf => ⟨houter f hf, ?_, hinner f hf⟩, ?_⟩
  · exact hrejected (fun h => hcss h.1) f hf
  · obtain ⟨f, hfilter, hvalue⟩ := haccepted hgql
    refine ⟨f, hfilter, ?_⟩
    rw [hvalue]
    decide

end Analysis

end ScriptScout
