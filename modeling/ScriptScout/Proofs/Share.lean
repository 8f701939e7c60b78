import ScriptScout.Proofs.Memory

/-!
# The share of one detector in a run

A run shows every node to a list of detectors that write to one state
and to one collection of findings. `share d` takes from both what
belongs to `d`. Because every detector stays in its own part of the
memory, the share of `d` in a run is what `d` does when it goes over
the same nodes alone (`share_inspectEach`), whoever else looks at them
and in whatever order.

`scan` is that lone run. Facts about one category are proved of it, by
one induction over the nodes (`scan_induction`), and carried over to
the run by `share_inspectAll`.
-/

namespace ScriptScout

/-! ## What a detector finds -/

/-- The findings of a detector have a type of their own. -/
def Detector.Found : Detector → Type
  | .httpCalls => HttpFinding
  | .graphql => Finding GraphqlKind
  | .domSinks => Finding SinkKind
  | .urls => UrlFinding
  | .events => Finding EventKind

/-- The findings of one detector. -/
def Findings.of (f : Findings) : (d : Detector) → List d.Found
  | .httpCalls => f.httpCalls
  | .graphql => f.graphql
  | .domSinks => f.domSinks
  | .urls => f.urls
  | .events => f.events

/-- The look of a detector at a node, with findings of its own type. -/
def Detector.look : (d : Detector) → Scene → Node → State → State × List d.Found
  | .httpCalls => HttpCall.step
  | .graphql => GraphqlText.step
  | .domSinks => Sink.step
  | .urls => UrlUse.step
  | .events => EventHook.step

/-- Findings are determined by what each detector has found. -/
theorem Findings.eq_of_of {f g : Findings} (h : ∀ d, f.of d = g.of d) : f = g := by
  obtain ⟨_, _, _, _, _⟩ := f
  obtain ⟨_, _, _, _, _⟩ := g
  rw [Findings.mk.injEq]
  exact ⟨h .urls, h .graphql, h .domSinks, h .events, h .httpCalls⟩

@[simp] theorem Findings.of_empty (d : Detector) : ({} : Findings).of d = [] := by
  cases d <;> rfl

@[simp] theorem Findings.of_append (f g : Findings) (d : Detector) :
    (f.append g).of d = f.of d ++ g.of d := by
  cases d <;> rfl

namespace Detector

theorem look_staysIn (d : Detector) (scene : Scene) (n : Node) :
    StaysIn d (d.look scene n) := by
  cases d with
  | httpCalls => exact HttpCall.staysIn scene n
  | graphql => exact GraphqlText.staysIn scene n
  | domSinks => exact Sink.staysIn scene n
  | urls => exact UrlUse.staysIn scene n
  | events => exact EventHook.staysIn scene n

theorem step_state (d : Detector) (scene : Scene) (n : Node) (s : State) :
    (d.step scene n s).1 = (d.look scene n s).1 := by
  cases d <;> rfl

theorem step_of_self (d : Detector) (scene : Scene) (n : Node) (s : State) :
    (d.step scene n s).2.of d = (d.look scene n s).2 := by
  cases d <;> rfl

theorem step_of_ne {d e : Detector} (h : e ≠ d) (scene : Scene) (n : Node) (s : State) :
    (d.step scene n s).2.of e = [] := by
  cases d <;> cases e <;> first | rfl | exact absurd rfl h

end Detector

/-! ## Shares -/

namespace Analysis

/-- What belongs to one detector, of a state and of findings. -/
def share (d : Detector) (r : State × Findings) : State × List d.Found :=
  (r.1.only d, r.2.of d)

theorem share_step_self (d : Detector) (scene : Scene) (n : Node) (s : State) :
    share d (d.step scene n s) = d.look scene n (s.only d) := by
  rw [(d.look_staysIn scene n).reads, share, d.step_state, d.step_of_self]

theorem share_step_of_ne {d e : Detector} (h : e ≠ d) (scene : Scene) (n : Node)
    (s : State) : share e (d.step scene n s) = (s.only e, []) := by
  rw [share, d.step_state, (d.look_staysIn scene n).writes s e h, d.step_of_ne h]

theorem share_inspect_cons (d e : Detector) (scene : Scene) (n : Node)
    (ds : List Detector) (s : State) :
    share d (inspect scene n (e :: ds) s) =
      ((share d (inspect scene n ds (e.step scene n s).1)).1,
        (share d (e.step scene n s)).2
          ++ (share d (inspect scene n ds (e.step scene n s).1)).2) := by
  simp only [inspect, share, Findings.of_append]

theorem share_inspect_of_not_mem {d : Detector} (scene : Scene) (n : Node) :
    ∀ {ds : List Detector} (s : State), d ∉ ds →
      share d (inspect scene n ds s) = (s.only d, [])
  | [], s, _ => by rw [inspect, share, Findings.of_empty]
  | e :: ds, s, hd => by
      have hne : d ≠ e := List.ne_of_not_mem_cons hd
      have hfirst := share_step_of_ne hne scene n s
      have hrest := share_inspect_of_not_mem scene n (e.step scene n s).1
        (List.not_mem_of_not_mem_cons hd)
      rw [share_inspect_cons, hrest, hfirst]
      have hstate := congrArg Prod.fst hfirst
      exact Prod.ext hstate rfl

/-- Among detectors that are all different each one looks at the node
exactly once, with its own memory. -/
theorem share_inspect_of_mem {d : Detector} (scene : Scene) (n : Node) :
    ∀ {ds : List Detector} (s : State), ds.Nodup → d ∈ ds →
      share d (inspect scene n ds s) = d.look scene n (s.only d)
  | e :: ds, s, hnd, hd => by
      obtain ⟨hnot, hnd'⟩ := List.nodup_cons.mp hnd
      rw [share_inspect_cons]
      by_cases hde : d = e
      · subst hde
        rw [share_inspect_of_not_mem scene n _ hnot, ← share_step_self d scene n s,
          List.append_nil]
        rfl
      · have hfirst := share_step_of_ne hde scene n s
        have hrest := share_inspect_of_mem scene n (e.step scene n s).1 hnd'
          ((List.mem_cons.mp hd).resolve_left hde)
        rw [show (e.step scene n s).1.only d = s.only d from congrArg Prod.fst hfirst]
          at hrest
        rw [hrest, hfirst, List.nil_append]

/-! ## The lone run -/

/-- Goes over nodes with one step and collects what it reports. -/
def scan {α : Type} (f : Node → State → State × List α) : List Node → State → State × List α
  | [], s => (s, [])
  | n :: ns, s =>
      let (s, first) := f n s
      let (s, rest) := scan f ns s
      (s, first ++ rest)

section

variable {α : Type} (f : Node → State → State × List α)

@[simp] theorem scan_nil (s : State) : scan f [] s = (s, []) := rfl

@[simp] theorem scan_cons (n : Node) (ns : List Node) (s : State) :
    scan f (n :: ns) s = ((scan f ns (f n s).1).1, (f n s).2 ++ (scan f ns (f n s).1).2) := rfl

theorem scan_append (ms ns : List Node) (s : State) :
    scan f (ms ++ ns) s =
      ((scan f ns (scan f ms s).1).1, (scan f ms s).2 ++ (scan f ns (scan f ms s).1).2) := by
  induction ms generalizing s with
  | nil => rfl
  | cons m ms ih => simp only [List.cons_append, scan_cons, ih, List.append_assoc]

/-- What holds of the start and is kept by every look holds of the
whole run: of the state it ends in and of all that it has reported. -/
theorem scan_induction {P : State → List α → Prop} {ns : List Node} {s : State}
    (hstart : P s [])
    (hstep : ∀ n ∈ ns, ∀ t out, P t out → P (f n t).1 (out ++ (f n t).2)) :
    P (scan f ns s).1 (scan f ns s).2 := by
  suffices h : ∀ (ns : List Node) (s : State) (out : List α), P s out →
      (∀ n ∈ ns, ∀ t out, P t out → P (f n t).1 (out ++ (f n t).2)) →
      P (scan f ns s).1 (out ++ (scan f ns s).2) from h ns s [] hstart hstep
  intro ns
  induction ns with
  | nil => intro s out hP _; simpa using hP
  | cons n ns ih =>
      intro s out hP hstep
      have hfirst := hstep n (List.mem_cons_self ..) s out hP
      have hrest := ih _ _ hfirst fun m hm => hstep m (List.mem_cons_of_mem _ hm)
      simpa only [scan_cons, List.append_assoc] using hrest

/-- Whatever a run reports, it reports at some node, in the state that
the nodes before have led to. -/
theorem exists_of_mem_scan {a : α} {ns : List Node} {s : State} (h : a ∈ (scan f ns s).2) :
    ∃ before n after, ns = before ++ n :: after ∧ a ∈ (f n (scan f before s).1).2 := by
  induction ns generalizing s with
  | nil => cases h
  | cons n ns ih =>
      rw [scan_cons] at h
      rcases List.mem_append.mp h with hfirst | hrest
      · exact ⟨[], n, ns, rfl, hfirst⟩
      · obtain ⟨before, m, after, rfl, hm⟩ := ih hrest
        exact ⟨n :: before, m, after, rfl, hm⟩

end

/-! ## From runs to lone runs -/

/-- Shows each node to the detectors that are listed with it. -/
def inspectEach (scene : Scene) : List (Node × List Detector) → State → State × Findings
  | [], s => (s, {})
  | (n, ds) :: calls, s =>
      let (s, first) := inspect scene n ds s
      let (s, rest) := inspectEach scene calls s
      (s, first.append rest)

theorem inspectAll_eq_inspectEach (scene : Scene) (ds : List Detector) (ns : List Node)
    (s : State) : inspectAll scene ds ns s = inspectEach scene (ns.map (·, ds)) s := by
  induction ns generalizing s with
  | nil => rfl
  | cons n ns ih => simp only [inspectAll, List.map_cons, inspectEach, ih]

theorem share_inspectEach_cons (d : Detector) (scene : Scene) (n : Node)
    (ds : List Detector) (calls : List (Node × List Detector)) (s : State) :
    share d (inspectEach scene ((n, ds) :: calls) s) =
      ((share d (inspectEach scene calls (inspect scene n ds s).1)).1,
        (share d (inspect scene n ds s)).2
          ++ (share d (inspectEach scene calls (inspect scene n ds s).1)).2) := by
  simp only [inspectEach, share, Findings.of_append]

theorem share_inspectEach_of_not_mem {d : Detector} (scene : Scene) :
    ∀ {calls : List (Node × List Detector)} (s : State), (∀ c ∈ calls, d ∉ c.2) →
      share d (inspectEach scene calls s) = (s.only d, [])
  | [], s, _ => by rw [inspectEach, share, Findings.of_empty]
  | (n, ds) :: calls, s, h => by
      have hfirst := share_inspect_of_not_mem scene n s (h (n, ds) (List.mem_cons_self ..))
      have hrest := share_inspectEach_of_not_mem scene (inspect scene n ds s).1
        fun c hc => h c (List.mem_cons_of_mem _ hc)
      rw [share_inspectEach_cons, hrest, hfirst]
      have hstate := congrArg Prod.fst hfirst
      exact Prod.ext hstate rfl

/-- The share of a detector in a run is its lone run over the same
nodes. -/
theorem share_inspectEach {d : Detector} (scene : Scene) :
    ∀ {calls : List (Node × List Detector)} (s : State),
      (∀ c ∈ calls, c.2.Nodup ∧ d ∈ c.2) →
      share d (inspectEach scene calls s) =
        scan (d.look scene) (calls.map (·.1)) (s.only d)
  | [], s, _ => by rw [inspectEach, share, Findings.of_empty]; rfl
  | (n, ds) :: calls, s, h => by
      obtain ⟨hnd, hd⟩ := h (n, ds) (List.mem_cons_self ..)
      have hfirst := share_inspect_of_mem scene n s hnd hd
      have hrest := share_inspectEach scene (inspect scene n ds s).1
        fun c hc => h c (List.mem_cons_of_mem _ hc)
      rw [show (inspect scene n ds s).1.only d = (d.look scene n (s.only d)).1 from
        congrArg Prod.fst hfirst] at hrest
      rw [share_inspectEach_cons, hrest, hfirst, List.map_cons, scan_cons]

theorem share_inspectAll {d : Detector} {ds : List Detector} (hnd : ds.Nodup) (hd : d ∈ ds)
    (scene : Scene) (ns : List Node) (s : State) :
    share d (inspectAll scene ds ns s) = scan (d.look scene) ns (s.only d) := by
  rw [inspectAll_eq_inspectEach, share_inspectEach scene s, List.map_map]
  · rw [show ((·.1) ∘ fun n => (n, ds) : Node → Node) = id from rfl, List.map_id]
  · intro c hc
    obtain ⟨n, -, rfl⟩ := List.mem_map.mp hc
    exact ⟨hnd, hd⟩

theorem share_inspectAll_of_not_mem {d : Detector} {ds : List Detector} (hd : d ∉ ds)
    (scene : Scene) (ns : List Node) (s : State) :
    share d (inspectAll scene ds ns s) = (s.only d, []) := by
  rw [inspectAll_eq_inspectEach]
  refine share_inspectEach_of_not_mem scene s fun c hc => ?_
  obtain ⟨n, -, rfl⟩ := List.mem_map.mp hc
  exact hd

end Analysis

/-! ## The result of a run -/

theorem Detector.mem_all (d : Detector) : d ∈ Detector.all := by
  cases d <;> decide

theorem Detector.mem_enabled {d : Detector} {m : ModuleSettings} :
    d ∈ enabled m ↔ d.isEnabled m = true := by
  simp only [enabled, List.mem_filter, d.mem_all, true_and]

theorem Detector.enabled_nodup (m : ModuleSettings) : (enabled m).Nodup :=
  List.Pairwise.filter _ (show all.Nodup by decide)

/-- What is left of the share of a detector in the end: of the
addresses those that no superseding value covers, of all else
everything. -/
def Detector.settle : (d : Detector) → State × List d.Found → List d.Found
  | .httpCalls, r => r.2
  | .graphql, r => r.2
  | .domSinks, r => r.2
  | .urls, r => UrlUse.retract r.1 r.2
  | .events, r => r.2

theorem Detector.settle_sublist (d : Detector) (r : State × List d.Found) :
    (d.settle r).Sublist r.2 := by
  cases d with
  | urls => exact List.filter_sublist
  | _ => exact List.Sublist.refl _

theorem Detector.settle_nil (d : Detector) (s : State) : d.settle (s, []) = [] :=
  List.sublist_nil.mp (d.settle_sublist (s, []))

namespace Analysis

/-- The findings of a run, less the addresses that it has superseded. -/
def conclude (r : State × Findings) : Findings :=
  { r.2 with urls := UrlUse.retract r.1 r.2.urls }

/-- The state and the findings with which the walk over a tree ends. -/
def walk (settings : Settings) (source : String) (root : Node) : State × Findings :=
  inspectAll (Scene.of source settings) (Detector.enabled settings.modules)
    (visited settings root) {}

theorem analyzeTree_eq (settings : Settings) (source : String) (root : Node) :
    analyzeTree settings source root = conclude (walk settings source root) := rfl

theorem of_conclude (r : State × Findings) (d : Detector) :
    (conclude r).of d = d.settle (share d r) := by
  cases d <;> rfl

theorem share_walk {d : Detector} {settings : Settings}
    (h : d.isEnabled settings.modules = true) (source : String) (root : Node) :
    share d (walk settings source root) =
      scan (d.look (Scene.of source settings)) (visited settings root) {} := by
  rw [walk, share_inspectAll (Detector.enabled_nodup _) (Detector.mem_enabled.mpr h),
    State.only_empty]

/-- What a detector contributes to the result is its lone run, settled,
if it is switched on. -/
theorem analyzeTree_of_enabled {d : Detector} {settings : Settings}
    (h : d.isEnabled settings.modules = true) (source : String) (root : Node) :
    (analyzeTree settings source root).of d =
      d.settle (scan (d.look (Scene.of source settings)) (visited settings root) {}) := by
  rw [analyzeTree_eq, of_conclude, share_walk h]

theorem analyzeTree_of_disabled {d : Detector} {settings : Settings}
    (h : d.isEnabled settings.modules = false) (source : String) (root : Node) :
    (analyzeTree settings source root).of d = [] := by
  have hd : d ∉ Detector.enabled settings.modules := fun hmem => by
    rw [Detector.mem_enabled, h] at hmem
    cases hmem
  rw [analyzeTree_eq, of_conclude, walk, share_inspectAll_of_not_mem hd, d.settle_nil]

end Analysis

end ScriptScout
