import ScriptScout.Proofs.GraphqlStep
import ScriptScout.Proofs.Share

/-!
# No span is reported twice in one category

The detectors guard against reporting a span twice in different ways:
some mark a span before they know whether there is anything to report,
some mark it only with a report, and some mark it only in some shapes.
`Takes` is what all of them have in common. A look leaves the marks of
its category alone and reports nothing, or takes one free span, in
silence or with one finding that stands under it.

From this follows, for every run, that what has been reported is marked
and that no two of its spans are equal (`scan_claimed`). What is
retracted in the end only makes the list shorter.
-/

namespace ScriptScout

/-! ## Taking a span -/

/-- What a look at a node may do to the marks of a category, and what
it may report in doing so. -/
inductive Takes {α : Type} (c : Category) (span : α → Span) (s : State) :
    State × List α → Prop
  | nothing {t : State} (hmarks : ∀ y, t.isMarked c y = s.isMarked c y) :
      Takes c span s (t, [])
  | silent {t : State} {x : Span} (hfree : s.isMarked c x = false)
      (hmarks : ∀ y, t.isMarked c y = (x == y || s.isMarked c y)) : Takes c span s (t, [])
  | report {t : State} {a : α} (hfree : s.isMarked c (span a) = false)
      (hmarks : ∀ y, t.isMarked c y = (span a == y || s.isMarked c y)) :
      Takes c span s (t, [a])

/-- All that has been reported is marked, and no span twice. -/
def Claimed {α : Type} (c : Category) (span : α → Span) (s : State) (out : List α) : Prop :=
  (out.map span).Nodup ∧ ∀ a ∈ out, s.isMarked c (span a) = true

section

variable {α : Type} {c : Category} {span : α → Span}

/-- Taking a span that is free, whether or not there is a finding. -/
theorem Takes.option {s t : State} {x : Span} (hfree : s.isMarked c x = false)
    (hmarks : ∀ y, t.isMarked c y = (x == y || s.isMarked c y)) :
    ∀ {o : Option α}, (∀ a, o = some a → span a = x) → Takes c span s (t, o.toList)
  | none, _ => .silent hfree hmarks
  | some a, ho => by
      obtain rfl := ho a rfl
      exact .report hfree hmarks

/-- The steps that mark a candidate before they look at it. -/
theorem Takes.candidate (s : State) (b : Bool) {x : Span} {o : Option α}
    (ho : ∀ a, o = some a → span a = x) :
    Takes c span s (if b && !s.isMarked c x then (s.mark c x, o.toList) else (s, [])) := by
  split
  · next h =>
      have hfree : s.isMarked c x = false := by simpa using (Bool.and_eq_true_iff.mp h).2
      exact .option hfree (s.isMarked_mark_self c x) ho
  · exact .nothing fun _ => rfl

theorem Takes.claimed {s : State} {r : State × List α} {out : List α}
    (h : Takes c span s r) (hout : Claimed c span s out) :
    Claimed c span r.1 (out ++ r.2) := by
  obtain ⟨hnd, hmarked⟩ := hout
  cases h with
  | nothing hmarks =>
      rw [List.append_nil]
      exact ⟨hnd, fun a ha => by rw [hmarks, hmarked a ha]⟩
  | silent _ hmarks =>
      rw [List.append_nil]
      exact ⟨hnd, fun a ha => by rw [hmarks, hmarked a ha, Bool.or_true]⟩
  | @report t a hfree hmarks =>
      have hnew : span a ∉ out.map span := fun hmem => by
        obtain ⟨b, hb, heq⟩ := List.mem_map.mp hmem
        rw [← heq, hmarked b hb] at hfree
        cases hfree
      constructor
      · rw [List.map_append, List.nodup_append]
        refine ⟨hnd, List.pairwise_singleton _ _, fun x hx y hy hxy => ?_⟩
        obtain rfl := List.mem_singleton.mp hy
        exact hnew (hxy ▸ hx)
      · intro b hb
        rw [hmarks]
        rcases List.mem_append.mp hb with hb' | hb'
        · rw [hmarked b hb', Bool.or_true]
        · obtain rfl := List.mem_singleton.mp hb'
          rw [beq_self_eq_true, Bool.true_or]

theorem scan_claimed {f : Node → State → State × List α}
    (hf : ∀ n s, Takes c span s (f n s)) (ns : List Node) (s : State) :
    Claimed c span (Analysis.scan f ns s).1 (Analysis.scan f ns s).2 :=
  Analysis.scan_induction f ⟨List.nodup_nil, fun _ ha => (nomatch ha)⟩
    fun n _ t _ hout => (hf n t).claimed hout

end

/-! ## Every detector takes spans -/

theorem HttpCall.takes (scene : Scene) (n : Node) (s : State) :
    Takes .httpCalls (·.span) s (HttpCall.step scene n s) := by
  refine .candidate s (isCandidate n) fun a ha => ?_
  obtain ⟨d, -, rfl⟩ := Option.map_eq_some_iff.mp ha
  rfl

theorem Sink.takes (scene : Scene) (n : Node) (s : State) :
    Takes .domSinks (·.span) s (Sink.step scene n s) := by
  refine .candidate s (isCandidate n) fun a ha => ?_
  simp only [recognize?, Option.bind_eq_bind, Option.bind_eq_some_iff, Option.pure_def,
    Option.some.injEq] at ha
  obtain ⟨kind, -, -, -, rfl⟩ := ha
  rfl

theorem GraphqlText.report_takes (scene : Scene) (span : Span) (value : String) {s t : State}
    (hmarks : ∀ y, t.isMarked .graphql y = s.isMarked .graphql y) :
    Takes .graphql (·.span) s (GraphqlText.report scene span value t) := by
  unfold report
  split
  · exact .nothing hmarks
  · next h =>
      have hfree : s.isMarked .graphql span = false := by
        rw [← hmarks]
        simpa using h
      refine .report hfree fun y => ?_
      rw [State.isMarked_mark_self, hmarks]
      rfl

theorem GraphqlText.takes (scene : Scene) (n : Node) (s : State) :
    Takes .graphql (·.span) s (GraphqlText.step scene n s) := by
  obtain ⟨t, hmarks, heq | ⟨m, value, -, heq⟩⟩ := step_cases scene n s
  · rw [heq]
    exact .nothing hmarks.isMarked_graphql
  · rw [heq]
    exact report_takes scene m.span value hmarks.isMarked_graphql

theorem EventHook.takes (scene : Scene) (n : Node) (s : State) :
    Takes .events (·.span) s (EventHook.step scene n s) := by
  have hmark := s.isMarked_mark_self .events
  cases n with
  | call span callee arguments =>
      simp only [step]
      split
      · exact .nothing fun _ => rfl
      · next h =>
          refine .option (by simpa using h) (hmark span) fun a ha => ?_
          obtain ⟨kind, -, rfl⟩ := Option.map_eq_some_iff.mp ha
          rfl
  | assignment span operator target value =>
      rw [step_assignment]
      split
      · exact .nothing fun _ => rfl
      · next h =>
          refine .option (by simpa using h) (fun y => ?_) fun a ha => ?_
          · split
            · rw [State.isMarked_mark_of_ne (by decide), hmark]
            · exact hmark span y
          · obtain ⟨kind, -, rfl⟩ := Option.map_eq_some_iff.mp ha
            rfl
  | member span receiver name computed =>
      simp only [step]
      split
      · next h =>
          have hfree : s.isMarked .events span = false := by
            simpa using (Bool.and_eq_true_iff.mp h).2
          exact .report hfree (hmark span)
      · exact .nothing fun _ => rfl
  | _ => exact .nothing fun _ => rfl

theorem UrlUse.takes (scene : Scene) (n : Node) (s : State) :
    Takes .urls (·.span) s (UrlUse.step scene n s) := by
  rcases step_cases scene n s with ⟨o, -, ⟨hfree, -⟩, heq⟩ | ⟨-, heq⟩
  · rw [heq]
    refine .report hfree fun y => ?_
    rw [State.isMarked_mark_self, isMarked_learn]
    rfl
  · rw [heq]
    exact .nothing fun y => isMarked_learn ..

/-! ## Runs -/

/-- The category under which a detector marks what it reports. -/
def Detector.category : Detector → Category
  | .httpCalls => .httpCalls
  | .graphql => .graphql
  | .domSinks => .domSinks
  | .urls => .urls
  | .events => .events

def Detector.span : (d : Detector) → d.Found → Span
  | .httpCalls, a => a.toFinding.span
  | .graphql, a => Finding.span a
  | .domSinks, a => Finding.span a
  | .urls, a => a.toFinding.span
  | .events, a => Finding.span a

theorem Detector.takes (d : Detector) (scene : Scene) (n : Node) (s : State) :
    Takes d.category d.span s (d.look scene n s) := by
  cases d with
  | httpCalls => exact HttpCall.takes scene n s
  | graphql => exact GraphqlText.takes scene n s
  | domSinks => exact Sink.takes scene n s
  | urls => exact UrlUse.takes scene n s
  | events => exact EventHook.takes scene n s

namespace Analysis

theorem analyzeTree_of_spans_nodup (settings : Settings) (source : String) (root : Node)
    (d : Detector) : (((analyzeTree settings source root).of d).map d.span).Nodup := by
  cases hd : d.isEnabled settings.modules with
  | false =>
      rw [analyzeTree_of_disabled hd]
      exact List.nodup_nil
  | true =>
      rw [analyzeTree_of_enabled hd]
      have hrun := (scan_claimed (d.takes (Scene.of source settings))
        (visited settings root) {}).1
      exact hrun.sublist ((d.settle_sublist _).map _)

/-- **No span is reported twice in one category.** This asks nothing of
the tree: its spans may nest, overlap and repeat as they like. -/
theorem analyzeTree_spans_nodup (settings : Settings) (source : String) (root : Node) :
    let found := analyzeTree settings source root
    (found.urls.map (·.span)).Nodup ∧ (found.graphql.map (·.span)).Nodup
      ∧ (found.domSinks.map (·.span)).Nodup ∧ (found.events.map (·.span)).Nodup
      ∧ (found.httpCalls.map (·.span)).Nodup := by
  have h := analyzeTree_of_spans_nodup settings source root
  exact ⟨h .urls, h .graphql, h .domSinks, h .events, h .httpCalls⟩

end Analysis

end ScriptScout
