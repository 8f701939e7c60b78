import ScriptScout.Proofs.Preorder
import ScriptScout.Proofs.Shapes
import ScriptScout.Proofs.UrlReport

/-!
# Detectors that need no memory

The detectors of requests and of sinks mark a candidate before they
know whether it is anything, so a candidate that is nothing can hide a
later one under the same span. That is all their memory does: a run
finds what a recognizer without memory makes of the first candidate of
each span (`scan_oncePerSpan`).

Both detectors are `oncePerSpan` with a category, a test for candidates
and a recognizer of their own. The induction is over the nodes, for any
state to start from; the spans that are marked there are those that the
rest of the run passes over.
-/

namespace ScriptScout

open Analysis

/-- The nodes without those whose span an earlier one has. -/
def firstOfSpan : List Node → List Node
  | [] => []
  | n :: ns => n :: (firstOfSpan ns).filter (·.span != n.span)

theorem firstOfSpan_eq_self {ns : List Node} (h : (ns.map Node.span).Nodup) :
    firstOfSpan ns = ns := by
  induction ns with
  | nil => rfl
  | cons n ns ih =>
      obtain ⟨hn, hns⟩ := List.nodup_cons.mp h
      rw [firstOfSpan, ih hns, List.filter_eq_self.mpr]
      intro m hm
      rw [bne_iff_ne]
      exact fun heq => hn (heq ▸ List.mem_map_of_mem hm)

/-! ## Each span speaks once -/

/-- The look of a detector that lets the first candidate under a span
speak and no other. -/
def oncePerSpan {α : Type} (c : Category) (isCandidate : Node → Bool)
    (recognize? : Node → Option α) (n : Node) (s : State) : State × List α :=
  if isCandidate n && !s.isMarked c n.span then (s.mark c n.span, (recognize? n).toList)
  else (s, [])

theorem HttpCall.step_eq (scene : Scene) :
    HttpCall.step scene = oncePerSpan .httpCalls isCandidate (recognize? scene) := rfl

theorem Sink.step_eq (scene : Scene) :
    Sink.step scene = oncePerSpan .domSinks isCandidate (recognize? scene) := rfl

theorem scan_oncePerSpan {α : Type} (c : Category) (isCandidate : Node → Bool)
    (recognize? : Node → Option α) (ns : List Node) (s : State) :
    (scan (oncePerSpan c isCandidate recognize?) ns s).2 =
      ((firstOfSpan (ns.filter isCandidate)).filter fun n =>
        !s.isMarked c n.span).filterMap recognize? := by
  induction ns generalizing s with
  | nil => rfl
  | cons n ns ih =>
      rw [scan_cons, ih]
      cases hcand : isCandidate n with
      | false =>
          simp only [oncePerSpan, hcand, Bool.false_and, Bool.false_eq_true, if_false,
            List.filter_cons, List.nil_append]
      | true =>
          rw [List.filter_cons_of_pos hcand, firstOfSpan, List.filter_cons, List.filter_filter]
          cases hmark : s.isMarked c n.span with
          | true =>
              -- what comes later under this span is marked as well
              have hlater : ∀ m : Node, (!s.isMarked c m.span && m.span != n.span) =
                  !s.isMarked c m.span := by
                intro m
                by_cases hspan : m.span = n.span
                · rw [hspan, hmark, Bool.not_true, Bool.false_and]
                · rw [bne_iff_ne.mpr hspan, Bool.and_true]
              simp only [oncePerSpan, hcand, hmark, hlater, Bool.not_true, Bool.and_false,
                Bool.false_eq_true, if_false, List.nil_append]
          | false =>
              have hlater : ∀ m : Node, (!s.isMarked c m.span && m.span != n.span) =
                  !(s.mark c n.span).isMarked c m.span := by
                intro m
                rw [State.isMarked_mark_self, Bool.not_or, Bool.and_comm, bne, BEq.comm]
              simp only [oncePerSpan, hcand, hmark, hlater, Bool.not_false, Bool.and_true, if_true,
                List.filterMap_cons]
              cases recognize? n <;> rfl

/-! ## Recognition -/

/-- What is recognized as a request has one of the shapes. -/
theorem HttpCall.recognize?_iff {scene : Scene} {n : Node} {f : Finding HttpKind} :
    (recognize? scene n).map (·.toFinding) = some f ↔ ∃ kind, Makes n kind
      ∧ f = scene.finding n.span (scene.text n.span) kind := by
  simp only [← classify?_kind_iff, recognize?, Option.map_map, Option.map_eq_some_iff,
    Function.comp_apply]
  constructor
  · rintro ⟨p, hp, rfl⟩
    exact ⟨p.1, ⟨p, hp, rfl⟩, rfl⟩
  · rintro ⟨_, ⟨p, hp, rfl⟩, rfl⟩
    exact ⟨p, hp, rfl⟩

theorem HttpCall.isCandidate_of_recognize? {scene : Scene} {n : Node} {f : HttpFinding}
    (h : recognize? scene n = some f) : isCandidate n = true ∧ f.span = n.span := by
  obtain ⟨p, hkind, rfl⟩ := Option.map_eq_some_iff.mp h
  refine ⟨?_, rfl⟩
  cases n with
  | call => rfl
  | construct => rfl
  | _ => cases hkind

/-- What is recognized as a sink has one of the shapes and is no false
alarm. -/
theorem Sink.recognize?_iff {scene : Scene} {n : Node} {f : Finding SinkKind} :
    recognize? scene n = some f ↔ ∃ kind, Sinks scene n kind
      ∧ isFalseAlarm kind (scene.text n.span).toList = false
      ∧ f = scene.finding n.span (scene.text n.span) kind := by
  simp only [recognize?, Option.bind_eq_bind, Option.bind_eq_some_iff, Option.guard_eq_some',
    Option.pure_def, Option.some.injEq, exists_const, Bool.not_eq_true', kind?_iff]
  exact exists_congr fun kind => and_congr_right fun _ => and_congr_right fun _ => eq_comm

theorem Sink.isCandidate_of_recognize? {scene : Scene} {n : Node} {f : Finding SinkKind}
    (h : recognize? scene n = some f) : isCandidate n = true ∧ f.span = n.span := by
  obtain ⟨kind, hsink, -, rfl⟩ := recognize?_iff.mp h
  refine ⟨?_, rfl⟩
  cases hsink with
  | markupAttribute => exact beq_self_eq_true _
  | _ => rfl

/-! ## Runs -/

theorem scan_oncePerSpan_empty {α : Type} (c : Category) (isCandidate : Node → Bool)
    (recognize? : Node → Option α) (ns : List Node) :
    (scan (oncePerSpan c isCandidate recognize?) ns {}).2 =
      (firstOfSpan (ns.filter isCandidate)).filterMap recognize? := by
  rw [scan_oncePerSpan, List.filter_eq_self.mpr]
  intro n _
  rw [State.isMarked_empty, Bool.not_false]

/-- Where no two candidates share a span, a node that is recognized has
its finding, and no other finding stands under its span. -/
theorem filter_span_eq_singleton {α : Type} {span : α → Span} {isCandidate : Node → Bool}
    {recognize? : Node → Option α} {ns : List Node} {found : List α}
    (hrec : ∀ {n a}, recognize? n = some a → isCandidate n = true ∧ span a = n.span)
    (hfound : found = (firstOfSpan (ns.filter isCandidate)).filterMap recognize?)
    (hspans : (found.map span).Nodup) (hnd : ((ns.filter isCandidate).map Node.span).Nodup)
    {n : Node} (hn : n ∈ ns) {a : α} (ha : recognize? n = some a) :
    found.filter (span · == n.span) = [a] := by
  obtain ⟨hcand, hspan⟩ := hrec ha
  have hmem : a ∈ found := by
    rw [hfound, firstOfSpan_eq_self hnd]
    exact List.mem_filterMap.mpr ⟨n, List.mem_filter.mpr ⟨hn, hcand⟩, ha⟩
  rw [← hspan]
  exact filter_eq_singleton_of_nodup hspans hmem

namespace Analysis

section

variable {settings : Settings} (source : String) (root : Node)

theorem analyzeTree_httpCalls (hon : settings.modules.httpCalls = true) :
    (analyzeTree settings source root).httpCalls =
      (firstOfSpan ((visited settings root).filter HttpCall.isCandidate)).filterMap
        (HttpCall.recognize? (Scene.of source {})) := by
  have hrun : (analyzeTree settings source root).httpCalls =
      (scan (HttpCall.step (Scene.of source settings)) (visited settings root) {}).2 :=
    analyzeTree_of_enabled (d := .httpCalls) hon source root
  rw [hrun, HttpCall.step_eq, scan_oncePerSpan_empty]
  rfl

theorem analyzeTree_domSinks (hon : settings.modules.domSinks = true) :
    (analyzeTree settings source root).domSinks =
      (firstOfSpan ((visited settings root).filter Sink.isCandidate)).filterMap
        (Sink.recognize? (Scene.of source {})) := by
  have hrun : (analyzeTree settings source root).domSinks =
      (scan (Sink.step (Scene.of source settings)) (visited settings root) {}).2 :=
    analyzeTree_of_enabled (d := .domSinks) hon source root
  rw [hrun, Sink.step_eq, scan_oncePerSpan_empty]
  rfl

end

/-- **Requests and sinks are found without memory.** In the order of the
walk, a run finds what a recognizer of node and source makes of the
first visited candidate of each span, and nothing else. What is
recognized is told by its shape, and sinks that are false alarms are
not. Where no two candidates share a span, everything that is
recognized is found exactly once. -/
theorem analyzeTree_stateless (settings : Settings) (source : String) (root : Node) :
    let ns := root.preorder settings.analysis.effectiveDepth
    let found := analyzeTree settings source root
    let scene := Scene.of source {}
    (settings.modules.httpCalls = true →
      found.httpCalls =
        (firstOfSpan (ns.filter HttpCall.isCandidate)).filterMap (HttpCall.recognize? scene)
      ∧ (((ns.filter HttpCall.isCandidate).map Node.span).Nodup →
        ∀ n ∈ ns, ∀ f, HttpCall.recognize? scene n = some f →
          found.httpCalls.filter (·.span == n.span) = [f]))
    ∧ (settings.modules.domSinks = true →
      found.domSinks =
        (firstOfSpan (ns.filter Sink.isCandidate)).filterMap (Sink.recognize? scene)
      ∧ (((ns.filter Sink.isCandidate).map Node.span).Nodup →
        ∀ n ∈ ns, ∀ f, Sink.recognize? scene n = some f →
          found.domSinks.filter (·.span == n.span) = [f]))
    ∧ (∀ n f, (HttpCall.recognize? scene n).map (·.toFinding) = some f ↔
      ∃ kind, HttpCall.Makes n kind ∧ f = scene.finding n.span (scene.text n.span) kind)
    ∧ ∀ n f, Sink.recognize? scene n = some f ↔ ∃ kind, Sink.Sinks scene n kind
      ∧ Sink.isFalseAlarm kind (scene.text n.span).toList = false
      ∧ f = scene.finding n.span (scene.text n.span) kind := by
  intro ns found scene
  have hspans := analyzeTree_of_spans_nodup settings source root
  refine ⟨fun hon => ?_, fun hon => ?_, fun n f => HttpCall.recognize?_iff,
    fun n f => Sink.recognize?_iff⟩
  · have hfound := analyzeTree_httpCalls source root hon
    rw [visited_eq_preorder] at hfound
    refine ⟨hfound, fun hnd n hn f hf => ?_⟩
    exact filter_span_eq_singleton HttpCall.isCandidate_of_recognize? hfound
      (hspans .httpCalls) hnd hn hf
  · have hfound := analyzeTree_domSinks source root hon
    rw [visited_eq_preorder] at hfound
    refine ⟨hfound, fun hnd n hn f hf => ?_⟩
    exact filter_span_eq_singleton Sink.isCandidate_of_recognize? hfound
      (hspans .domSinks) hnd hn hf

/-- Each of the nested calls has a span of its own, so that the inner
sinks are not hidden by the outer ones. The last call has the shape of
a sink, and the comment in its text makes it a false alarm. -/
theorem analyzeTree_stateless_nested :
    let settings : Settings := { analysis := { maxTraversalDepth := 2 } }
    let source := "fetch(eval(document.write(x)), eval(/*p*/y))"
    let write := Node.call ⟨11, 28⟩ (.member ⟨11, 25⟩ (.identifier ⟨11, 19⟩ "document")
      (.identifier ⟨20, 25⟩ "write") false) [.identifier ⟨26, 27⟩ "x"]
    let commented := Node.call ⟨31, 43⟩ (.identifier ⟨31, 35⟩ "eval") [.identifier ⟨41, 42⟩ "y"]
    let root := Node.call ⟨0, 44⟩ (.identifier ⟨0, 5⟩ "fetch")
      [.call ⟨6, 29⟩ (.identifier ⟨6, 10⟩ "eval") [write], commented]
    let found := analyzeTree settings source root
    found.httpCalls.map (·.kind) = [.fetch]
      ∧ found.domSinks.map (·.kind) = [.eval, .write]
      ∧ (found.domSinks.filter (·.span == write.span)).map (·.kind) = [.write]
      ∧ Sink.Sinks (Scene.of source {}) commented .eval
      ∧ Sink.isFalseAlarm .eval ((Scene.of source {}).text commented.span).toList = true
      ∧ found.domSinks.filter (·.span == commented.span) = [] := by
  intro settings source write commented root found
  have hnodes : root.preorder settings.analysis.effectiveDepth =
      [root, .identifier ⟨0, 5⟩ "fetch", .call ⟨6, 29⟩ (.identifier ⟨6, 10⟩ "eval") [write],
        .identifier ⟨6, 10⟩ "eval", write, commented, .identifier ⟨31, 35⟩ "eval",
        .identifier ⟨41, 42⟩ "y"] := rfl
  obtain ⟨hhttp, hsinks, -, hshape⟩ := analyzeTree_stateless settings source root
  rw [hnodes] at hhttp hsinks
  obtain ⟨hcalls, -⟩ := hhttp rfl
  obtain ⟨hdom, honce⟩ := hsinks rfl
  refine ⟨?_, ?_, ?_, .eval rfl, ?_, ?_⟩
  · rw [hcalls]
    decide +kernel
  · rw [hdom]
    decide +kernel
  · have hwrite := (hshape write _).mpr ⟨.write, .write (.inl rfl), by decide +kernel, rfl⟩
    rw [honce (by decide) write (by simp) _ hwrite]
    rfl
  · decide +kernel
  · rw [hdom]
    decide +kernel

end Analysis

end ScriptScout
