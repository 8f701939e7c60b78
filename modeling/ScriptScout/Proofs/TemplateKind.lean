import ScriptScout.Proofs.KeywordKind
import ScriptScout.Proofs.SourceOrder
import ScriptScout.Proofs.Text.Parts
import ScriptScout.Proofs.UrlReport

/-!
# The kind of a template

A template is tested by its own text, the chunks alone, and reported
with the substitutions between them. Its kind goes by what is reported.
The two texts agree up to the first substitution and no further. So the
kind is that of the text that was tested if the first chunk holds the
whole keyword; if a substitution stands before the keyword or inside
it, there is no kind (`kindOf_of_writtenOut`).

`ReportedAt` ties a finding to the node at which it is made, since
spans do not: nothing keeps two nodes of a tree from having the same
one.
-/

namespace ScriptScout

/-! ## The first chunk -/

namespace Graphql

/-- Does the text open with a keyword, in any spelling? -/
def opensWithKeyword (s : String) : Bool := (afterAnyWord? keywords (Text.trim s.toList)).isSome

theorem opensWithKeyword_iff {s : String} :
    opensWithKeyword s = true ↔ ∃ word ∈ keywords, ∃ spelling, Opens s.toList word spelling :=
  isSome_afterAnyWord?_iff

theorem Opens.append {cs spelling : List Char} {word : String} (h : Opens cs word spelling)
    (more : List Char) : Opens (cs ++ more) word spelling :=
  ⟨h.spells, h.leads.trans (Text.trim_prefix_append cs more)⟩

theorem keywords_letters : ∀ word ∈ keywords,
    '$' ∉ word.toList ∧ word.toList.all (!Text.isBlank ·) = true := by
  decide

/-- No substitution stands in a keyword. -/
theorem Opens.of_append {cs more spelling : List Char} {word : String} (hword : word ∈ keywords)
    (h : Opens (cs ++ '$' :: more) word spelling) : Opens cs word spelling := by
  obtain ⟨hdollar, hletters⟩ := keywords_letters word hword
  have hfolded {c : Char} (hc : c ∈ spelling) : Text.foldChar c ∈ word.toList :=
    h.spells ▸ Text.mem_fold_of_mem hc
  have hblank : ∀ c ∈ spelling, Text.isBlank c = false := by
    intro c hc
    cases hblank : Text.isBlank c with
    | false => rfl
    | true =>
        have hmem := hfolded hc
        rw [Text.foldChar_of_isBlank hblank] at hmem
        have hletter := List.all_eq_true.mp hletters c hmem
        rw [hblank] at hletter
        cases hletter
  -- The dollar is no blank, so the blanks that are skipped all stand before it.
  have hskip : (cs ++ '$' :: more).dropWhile Text.isBlank =
      cs.dropWhile Text.isBlank ++ '$' :: more := by
    rw [List.dropWhile_append]
    split
    · next hempty =>
        rw [List.isEmpty_iff.mp hempty]
        rfl
    · rfl
  have hleads : spelling <+: cs.dropWhile Text.isBlank ++ '$' :: more := by
    rw [← hskip]
    exact h.leads.trans (Text.trimEnd_below _)
  have hchunk := Text.prefix_of_not_mem hleads fun hc => hdollar (hfolded hc)
  exact ⟨h.spells, Text.prefix_trimEnd hchunk hblank⟩

end Graphql

/-- The text of a template between its backticks: its chunks, and
between two of them a substitution. -/
inductive WrittenOut : List Quasi → String → Prop
  | last (q : Quasi) : WrittenOut [q] q.raw
  | substitution (q : Quasi) (inside : String) {qs : List Quasi} {rest : String}
      (h : WrittenOut qs rest) :
      WrittenOut (q :: qs) (q.raw ++ "$\x7b" ++ inside ++ "\x7d" ++ rest)

/-- The chunk before the first substitution. -/
def leadChunk (quasis : List Quasi) : String := (quasis.head?.map (·.raw)).getD ""

namespace GraphqlText

open Graphql

/-- What is written has the kind of the chunks alone if the first of
them has the whole keyword, and else none. -/
theorem kindOf_of_writtenOut {quasis : List Quasi} {text : String} (h : WrittenOut quasis text) :
    kindOf text =
      if opensWithKeyword (leadChunk quasis) then kindOf (ownText quasis) else .other := by
  cases h with
  | last q =>
      have hown : ownText [q] = q.raw := by simp [ownText]
      have hlead : leadChunk [q] = q.raw := rfl
      rw [hown, hlead]
      split
      · rfl
      · next hopens =>
          refine kindOf_of_not_opens fun word hword spelling hspelled => ?_
          exact hopens (opensWithKeyword_iff.mpr ⟨word, hword, spelling, hspelled⟩)
  | @substitution q inside qs rest _ =>
      have hown : (ownText (q :: qs)).toList = q.raw.toList ++ (ownText qs).toList := by
        simp [ownText]
      have htext : (q.raw ++ "$\x7b" ++ inside ++ "\x7d" ++ rest).toList =
          q.raw.toList ++ '$' :: ('\x7b' :: (inside ++ "\x7d" ++ rest).toList) := by
        simp [String.toList_append]
      have hlead : leadChunk (q :: qs) = q.raw := rfl
      rw [hlead]
      split
      · next hopens =>
          obtain ⟨word, hword, spelling, hspelled⟩ := opensWithKeyword_iff.mp hopens
          obtain ⟨kind, hkind⟩ := exists_kind hword
          rw [kindOf_of_opens hkind (htext ▸ hspelled.append _),
            kindOf_of_opens hkind (hown ▸ hspelled.append _)]
      · next hopens =>
          refine kindOf_of_not_opens fun word hword spelling hspelled => ?_
          rw [htext] at hspelled
          exact hopens (opensWithKeyword_iff.mpr ⟨word, hword, spelling, hspelled.of_append hword⟩)

/-! ## Looks at templates -/

/-- Without its backticks a template is what stands between them. -/
theorem templateBody_backticks (text : String) :
    templateBody ("\x60" ++ text ++ "\x60") = text := by
  have hlist : ("\x60" ++ text ++ "\x60").toList = '\x60' :: (text.toList ++ ['\x60']) := by
    simp [String.toList_append]
  simp [templateBody, hlist, Text.afterLead?]

theorem templateBody_text {source text : String} {span : Span}
    (h : span.text source = "\x60" ++ text ++ "\x60") (settings : Settings) :
    templateBody ((Scene.of source settings).text span) = text := by
  rw [Scene.text, Scene.of, h, templateBody_backticks]

theorem eq_finding_of_mem_report {scene : Scene} {span : Span} {value : String} {s : State}
    {f : Finding GraphqlKind} (h : f ∈ (report scene span value s).2) :
    f = scene.finding span value (kindOf value) := by
  unfold report at h
  split at h
  · cases h
  · exact List.mem_singleton.mp h

theorem mem_report {scene : Scene} {span : Span} {value : String} {s : State}
    (h : s.isMarked .graphql span = false) :
    scene.finding span value (kindOf value) ∈ (report scene span value s).2 := by
  rw [report, h]
  exact List.mem_singleton.mpr rfl

end GraphqlText

/-- The span and the chunks of the template that a node is, or that
stands behind its tag. -/
def Node.template? : Node → Option (Span × List Quasi)
  | template span quasis _ => some (span, quasis)
  | tagged _ _ (template span quasis _) => some (span, quasis)
  | _ => none

theorem Node.eq_of_template? {n : Node} {span : Span} {quasis : List Quasi}
    (h : n.template? = some (span, quasis)) :
    ∃ expressions, n = template span quasis expressions
      ∨ ∃ outer tag, n = tagged outer tag (template span quasis expressions) := by
  cases n with
  | template span' quasis' expressions =>
      cases h
      exact ⟨expressions, .inl rfl⟩
  | tagged outer tag inner =>
      cases inner with
      | template span' quasis' expressions =>
          cases h
          exact ⟨expressions, .inr ⟨outer, tag, rfl⟩⟩
      | _ => cases h
  | _ => cases h

theorem GraphqlText.step_template {scene : Scene} {n : Node} {span : Span} {quasis : List Quasi}
    {s : State} {f : Finding GraphqlKind} (hn : n.template? = some (span, quasis))
    (h : f ∈ (step scene n s).2) :
    isPlausibleHere scene (ownText quasis) = true
      ∧ f = scene.finding n.span (templateBody (scene.text span))
        (Graphql.kindOf (templateBody (scene.text span))) := by
  obtain ⟨expressions, rfl | ⟨outer, tag, rfl⟩⟩ := Node.eq_of_template? hn
  · simp only [step] at h
    split at h
    · next hcond =>
        simp only [Bool.and_eq_true] at hcond
        exact ⟨hcond.1.2, eq_finding_of_mem_report h⟩
    · cases h
  · simp only [step] at h
    split at h
    · next hcond =>
        simp only [Bool.and_eq_true] at hcond
        exact ⟨hcond.2, eq_finding_of_mem_report h⟩
    · cases h

/-- A template that is accepted is reported by the first look at its
span. -/
theorem GraphqlText.mem_step_template (scene : Scene) (span : Span) {quasis : List Quasi}
    (expressions : List Node) (hpass : isPlausibleHere scene (ownText quasis) = true)
    (hkeyword : Graphql.startsWithKeyword (ownText quasis) = true) :
    scene.finding span (templateBody (scene.text span))
        (Graphql.kindOf (templateBody (scene.text span)))
      ∈ (step scene (.template span quasis expressions) {}).2 := by
  simp only [step, State.isMarked_empty, hpass, hkeyword, Bool.not_false, Bool.and_self,
    if_true]
  refine mem_report ?_
  rw [State.isMarked_mark_of_ne (by decide), State.isMarked_empty]

theorem GraphqlText.mem_step_tagged {scene : Scene} (span inner : Span) {tag : Node}
    {quasis : List Quasi} (expressions : List Node)
    (htag : tagNames.contains (tagName scene tag) = true)
    (hpass : isPlausibleHere scene (ownText quasis) = true) :
    scene.finding span (templateBody (scene.text inner))
        (Graphql.kindOf (templateBody (scene.text inner)))
      ∈ (step scene (.tagged span tag (.template inner quasis expressions)) {}).2 := by
  simp only [step, htag, hpass, Bool.and_self, if_true]
  refine mem_report ?_
  rw [State.isMarked_mark_of_ne (by decide), State.isMarked_empty]

/-! ## Runs -/

namespace Node

/-- Every template of the tree stands in the source between backticks,
its chunks with substitutions between them. -/
def TemplatesIn (source : String) (root : Node) : Prop :=
  ∀ depth span quasis expressions, root.OccursAt depth (.template span quasis expressions) →
    ∃ text, WrittenOut quasis text ∧ span.text source = "\x60" ++ text ++ "\x60"

theorem templatesIn_of_parts {source : String} {root : Node}
    (hself : ∀ span quasis, root.template? = some (span, quasis) →
      ∃ text, WrittenOut quasis text ∧ span.text source = "\x60" ++ text ++ "\x60")
    (hparts : ∀ c ∈ root.children, c.TemplatesIn source) : root.TemplatesIn source := by
  intro depth span quasis expressions hocc
  rcases hocc.eq_or_child with rfl | ⟨c, hc, below, hbelow⟩
  · exact hself span quasis rfl
  · exact hparts c hc below span quasis expressions hbelow

theorem templatesIn_identifier (source : String) (span : Span) (name : String) :
    (identifier span name).TemplatesIn source :=
  templatesIn_of_parts (fun _ _ h => nomatch h) (fun _ h => nomatch h)

theorem TemplatesIn.exists_writtenOut {source : String} {root n : Node} {depth : Nat} {span : Span}
    {quasis : List Quasi} (h : root.TemplatesIn source) (hocc : root.OccursAt depth n)
    (hn : n.template? = some (span, quasis)) :
    ∃ text, WrittenOut quasis text ∧ span.text source = "\x60" ++ text ++ "\x60" := by
  obtain ⟨expressions, rfl | ⟨outer, tag, rfl⟩⟩ := eq_of_template? hn
  · exact h _ _ _ _ hocc
  · exact h _ _ _ _ (hocc.child (List.mem_cons_of_mem _ (List.mem_cons_self ..)))

end Node

namespace Analysis

theorem mem_scan_iff {α : Type} {f : Node → State → State × List α} {a : α} {ns : List Node}
    {s : State} : a ∈ (scan f ns s).2 ↔
      ∃ before n after, ns = before ++ n :: after ∧ a ∈ (f n (scan f before s).1).2 := by
  refine ⟨exists_of_mem_scan f, ?_⟩
  rintro ⟨before, n, after, rfl, ha⟩
  rw [scan_append, scan_cons]
  exact List.mem_append_right _ (List.mem_append_left _ ha)

/-- The finding is made at the node, when the run comes to it. -/
def ReportedAt (settings : Settings) (source : String) (root n : Node)
    (f : Finding GraphqlKind) : Prop :=
  let look := GraphqlText.step (Scene.of source settings)
  ∃ before after, visited settings root = before ++ n :: after
    ∧ f ∈ (look n (scan look before {}).1).2

theorem mem_graphql_iff {settings : Settings} {source : String} {root : Node}
    {f : Finding GraphqlKind} : f ∈ (analyzeTree settings source root).graphql ↔
      settings.modules.graphql = true ∧ ∃ n, ReportedAt settings source root n f := by
  cases hon : settings.modules.graphql with
  | false =>
      have hnone : (analyzeTree settings source root).graphql = [] :=
        analyzeTree_of_disabled (d := .graphql) hon source root
      simp [hnone]
  | true =>
      have hrun : (analyzeTree settings source root).graphql =
          (scan (GraphqlText.step (Scene.of source settings)) (visited settings root) {}).2 :=
        analyzeTree_of_enabled (d := .graphql) hon source root
      rw [hrun, mem_scan_iff]
      constructor
      · rintro ⟨before, n, after, hsplit, hf⟩
        exact ⟨rfl, n, before, after, hsplit, hf⟩
      · rintro ⟨-, n, before, after, hsplit, hf⟩
        exact ⟨before, n, after, hsplit, hf⟩

theorem reportedAt_root {settings : Settings} {source : String} {root : Node}
    {f : Finding GraphqlKind}
    (h : f ∈ (GraphqlText.step (Scene.of source settings) root {}).2) :
    ReportedAt settings source root root f := by
  obtain ⟨below, hbelow⟩ := root.preorder_eq_cons settings.analysis.effectiveDepth
  refine ⟨[], below, ?_, h⟩
  rw [visited_eq_preorder, hbelow]
  rfl

/-- **A template has the kind of the text that was tested, if the first
chunk holds the keyword.** Each finding of a run is made at some node.
One that is made at a template, with a tag or without, was accepted by
the chunks alone. It has them with their substitutions for its value,
and its kind is that of the chunks alone if the first of them opens with
a keyword. If a substitution stands before the keyword or inside it,
there is no kind. -/
theorem analyzeTree_template_kind {source : String} {root : Node} (h : root.TemplatesIn source)
    (settings : Settings) :
    (∀ f, f ∈ (analyzeTree settings source root).graphql ↔
      settings.modules.graphql = true ∧ ∃ n, ReportedAt settings source root n f)
    ∧ ∀ n f span quasis, ReportedAt settings source root n f →
      n.template? = some (span, quasis) →
        f.span = n.span
          ∧ Graphql.isPlausible settings.heuristics (GraphqlText.ownText quasis) = true
          ∧ WrittenOut quasis f.value
          ∧ f.kind = if Graphql.opensWithKeyword (leadChunk quasis)
            then Graphql.kindOf (GraphqlText.ownText quasis) else .other := by
  refine ⟨fun f => mem_graphql_iff, ?_⟩
  rintro n f span quasis ⟨before, after, hsplit, hf⟩ hn
  obtain ⟨hpass, rfl⟩ := GraphqlText.step_template hn hf
  have hvisited : n ∈ visited settings root := by
    rw [hsplit]
    exact List.mem_append_right _ (List.mem_cons_self ..)
  obtain ⟨depth, hocc, -⟩ := mem_visited.mp hvisited
  obtain ⟨text, hwritten, htext⟩ := h.exists_writtenOut hocc hn
  have hbody := GraphqlText.templateBody_text htext settings
  refine ⟨rfl, hpass, ?_, ?_⟩
  · exact hbody.symm ▸ hwritten
  · rw [hbody]
    exact GraphqlText.kindOf_of_writtenOut hwritten

/-- The chunks of a query with a substitution behind it. -/
def feedFirst : List Quasi := [⟨⟨4, 24⟩, "query Feed \x7b feed \x7d "⟩, ⟨⟨32, 32⟩, ""⟩]

theorem analyzeTree_template_kind_behind :
    let source := "gql\x60query Feed \x7b feed \x7d $\x7bPARTS\x7d\x60"
    let root := Node.tagged ⟨0, 33⟩ (.identifier ⟨0, 3⟩ "gql")
      (.template ⟨3, 33⟩ feedFirst [.identifier ⟨26, 31⟩ "PARTS"])
    root.TemplatesIn source ∧ ∃ f ∈ (analyzeTree {} source root).graphql,
      f.value = "query Feed \x7b feed \x7d $\x7bPARTS\x7d" ∧ f.kind = .query := by
  intro source root
  have hchunks : WrittenOut feedFirst "query Feed \x7b feed \x7d $\x7bPARTS\x7d" :=
    .substitution _ "PARTS" (.last _)
  have htext : (⟨3, 33⟩ : Span).text source =
      "\x60" ++ "query Feed \x7b feed \x7d $\x7bPARTS\x7d" ++ "\x60" := by decide
  have hname (span : Span) (name : String) := Node.templatesIn_identifier source span name
  have hwritten : root.TemplatesIn source := by
    refine Node.templatesIn_of_parts ?_ (List.forall_mem_cons.mpr
      ⟨hname _ _, List.forall_mem_singleton.mpr ?_⟩)
    · rintro span quasis ⟨⟩
      exact ⟨_, hchunks, htext⟩
    · refine Node.templatesIn_of_parts ?_ (List.forall_mem_singleton.mpr (hname _ _))
      rintro span quasis ⟨⟩
      exact ⟨_, hchunks, htext⟩
  have htag : GraphqlText.tagNames.contains
      (GraphqlText.tagName (Scene.of source {}) (.identifier ⟨0, 3⟩ "gql")) = true := by decide
  have hpass : GraphqlText.isPlausibleHere (Scene.of source {})
      (GraphqlText.ownText feedFirst) = true := by decide
  have hfound := GraphqlText.mem_step_tagged ⟨0, 33⟩ ⟨3, 33⟩ [.identifier ⟨26, 31⟩ "PARTS"]
    htag hpass
  rw [GraphqlText.templateBody_text htext] at hfound
  have hreported := reportedAt_root hfound
  obtain ⟨hmem, hkind⟩ := analyzeTree_template_kind hwritten {}
  refine ⟨hwritten, _, (hmem _).mpr ⟨rfl, _, hreported⟩, rfl, ?_⟩
  rw [(hkind _ _ _ _ hreported rfl).2.2.2]
  decide

/-- The chunks of a query with a substitution before it. -/
def feedLast : List Quasi := [⟨⟨1, 1⟩, ""⟩, ⟨⟨9, 29⟩, " query Feed \x7b feed \x7d"⟩]

/-- The chunks alone are a query, and it is reported without a kind. -/
theorem analyzeTree_template_kind_before :
    let source := "\x60$\x7bPARTS\x7d query Feed \x7b feed \x7d\x60"
    let root := Node.template ⟨0, 30⟩ feedLast [.identifier ⟨3, 8⟩ "PARTS"]
    root.TemplatesIn source ∧ Graphql.kindOf (GraphqlText.ownText feedLast) = .query
      ∧ ∃ f ∈ (analyzeTree {} source root).graphql,
        ReportedAt {} source root root f ∧ f.kind = .other := by
  intro source root
  have hchunks : WrittenOut feedLast "$\x7bPARTS\x7d query Feed \x7b feed \x7d" :=
    .substitution _ "PARTS" (.last _)
  have htext : (⟨0, 30⟩ : Span).text source =
      "\x60" ++ "$\x7bPARTS\x7d query Feed \x7b feed \x7d" ++ "\x60" := by decide
  have hwritten : root.TemplatesIn source := by
    refine Node.templatesIn_of_parts ?_ (List.forall_mem_singleton.mpr
      (Node.templatesIn_identifier source _ _))
    rintro span quasis ⟨⟩
    exact ⟨_, hchunks, htext⟩
  have hpass : GraphqlText.isPlausibleHere (Scene.of source {})
      (GraphqlText.ownText feedLast) = true := by decide
  have hfound := GraphqlText.mem_step_template (Scene.of source {}) ⟨0, 30⟩
    [.identifier ⟨3, 8⟩ "PARTS"] hpass (by decide)
  rw [GraphqlText.templateBody_text htext] at hfound
  have hreported := reportedAt_root hfound
  refine ⟨hwritten, by decide, _, mem_graphql_iff.mpr ⟨rfl, _, hreported⟩, hreported, ?_⟩
  change Graphql.kindOf "$\x7bPARTS\x7d query Feed \x7b feed \x7d" = .other
  decide

end Analysis

end ScriptScout
