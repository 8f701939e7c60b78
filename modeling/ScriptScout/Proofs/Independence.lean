import ScriptScout.Proofs.Share

/-!
# Detectors do not interfere

All detectors write to one state and one collection of findings in a
single pass, and yet each of them finds what it would find alone. Which
of the others are switched on makes no difference to a detector, one
that is switched off finds nothing, and the detectors may be called in
any order, even in another order at every node.

All three parts compare two runs, and all three go the same way: both
runs have the same share for every detector, since either share is the
lone run over the nodes that are visited.
-/

namespace ScriptScout

/-! ## Switches are not read -/

theorem UrlUse.judge?_modules (settings : Settings) (m : ModuleSettings) (value : String)
    (site : Url.Site) :
    judge? { settings with modules := m } value site = judge? settings value site := by
  have hgate : Url.isCandidate { settings with modules := m } value =
      Url.isCandidate settings value := rfl
  have hclass : Url.classify { settings with modules := m } value site =
      Url.classify settings value site := rfl
  simp only [judge?, hgate, hclass]

/-- A look for addresses reads the settings only in what it learns, in
what it offers and in how it judges an offer. -/
theorem UrlUse.step_congr {settings other : Settings} (source : String)
    (hjudge : ∀ value site, judge? settings value site = judge? other value site)
    (hoffer : offerOf settings.analysis = offerOf other.analysis)
    (hlearn : learn settings.analysis = learn other.analysis) :
    step (Scene.of source settings) = step (Scene.of source other) := by
  funext n s
  rw [step_eq, step_eq]
  show reportOption _ (offerOf settings.analysis s.bindings n) (learn settings.analysis n s) =
    reportOption _ (offerOf other.analysis s.bindings n) (learn other.analysis n s)
  rw [hoffer, hlearn]
  cases offerOf other.analysis s.bindings n with
  | none => rfl
  | some o =>
      simp only [reportOption, report, Scene.of, hjudge]
      rfl

theorem UrlUse.step_modules (settings : Settings) (m : ModuleSettings) (source : String) :
    step (Scene.of source { settings with modules := m }) =
      step (Scene.of source settings) :=
  step_congr source (judge?_modules settings m) rfl rfl

namespace Analysis

/-- No detector reads which detectors are switched on. -/
theorem look_modules (d : Detector) (settings : Settings) (m : ModuleSettings)
    (source : String) :
    d.look (Scene.of source { settings with modules := m }) =
      d.look (Scene.of source settings) := by
  cases d with
  | urls => exact UrlUse.step_modules settings m source
  | _ => rfl

/-! ## Independence -/

/-- What a run finds if each node is shown to the detectors that are
listed with it. -/
def analyzeCalls (settings : Settings) (source : String)
    (calls : List (Node × List Detector)) : Findings :=
  conclude (inspectEach (Scene.of source settings) calls {})

theorem analyzeTree_of_modules {d : Detector} {settings : Settings} {m : ModuleSettings}
    (h : d.isEnabled m = d.isEnabled settings.modules) (source : String) (root : Node) :
    (analyzeTree { settings with modules := m } source root).of d =
      (analyzeTree settings source root).of d := by
  cases hd : d.isEnabled settings.modules with
  | false =>
      rw [hd] at h
      rw [analyzeTree_of_disabled hd]
      exact analyzeTree_of_disabled h source root
  | true =>
      rw [hd] at h
      rw [analyzeTree_of_enabled hd, ← look_modules d settings m]
      exact analyzeTree_of_enabled h source root

/-- Calling the enabled detectors in any order gives every detector the
share that it has in the fixed order. -/
theorem share_inspectEach_of_perm {settings : Settings} {calls : List (Node × List Detector)}
    (hcalls : ∀ c ∈ calls, c.2.Perm (Detector.enabled settings.modules))
    (scene : Scene) (s : State) (d : Detector) :
    share d (inspectEach scene calls s) =
      share d (inspectAll scene (Detector.enabled settings.modules) (calls.map (·.1)) s) := by
  by_cases hd : d ∈ Detector.enabled settings.modules
  · rw [share_inspectAll (Detector.enabled_nodup _) hd]
    refine share_inspectEach scene s fun c hc => ?_
    have hperm := hcalls c hc
    exact ⟨hperm.nodup_iff.mpr (Detector.enabled_nodup _), hperm.mem_iff.mpr hd⟩
  · rw [share_inspectAll_of_not_mem hd]
    exact share_inspectEach_of_not_mem scene s fun c hc =>
      mt (hcalls c hc).mem_iff.mp hd

theorem analyzeCalls_eq {settings : Settings} {root : Node}
    {calls : List (Node × List Detector)}
    (hnodes : calls.map (·.1) = visited settings root)
    (hcalls : ∀ c ∈ calls, c.2.Perm (Detector.enabled settings.modules)) (source : String) :
    analyzeCalls settings source calls = analyzeTree settings source root := by
  refine Findings.eq_of_of fun d => ?_
  rw [analyzeTree_eq, analyzeCalls, of_conclude, of_conclude,
    share_inspectEach_of_perm hcalls, hnodes, walk]

/-- **The detectors do not interfere.** The findings of a detector do
not change with the switches of the others, there are none if its own
switch is off, and the whole result is the same for every order in
which the enabled detectors are called on each node. -/
theorem analyzeTree_independent (settings : Settings) (source : String) (root : Node) :
    (∀ (d : Detector) (m : ModuleSettings), d.isEnabled m = d.isEnabled settings.modules →
        (analyzeTree { settings with modules := m } source root).of d =
          (analyzeTree settings source root).of d)
      ∧ (∀ d : Detector, d.isEnabled settings.modules = false →
        (analyzeTree settings source root).of d = [])
      ∧ (∀ calls : List (Node × List Detector), calls.map (·.1) = visited settings root →
        (∀ c ∈ calls, c.2.Perm (Detector.enabled settings.modules)) →
        analyzeCalls settings source calls = analyzeTree settings source root) :=
  ⟨fun _ _ h => analyzeTree_of_modules h source root,
   fun _ h => analyzeTree_of_disabled h source root,
   fun _ hnodes hcalls => analyzeCalls_eq hnodes hcalls source⟩

/-- The switches of the others, an own switch that is off, and two
orders that take turns, on `fetch("/api")`. -/
theorem analyzeTree_independent_fetch :
    let root := Node.call ⟨0, 13⟩ (.identifier ⟨0, 5⟩ "fetch")
      [.literal ⟨6, 12⟩ (.string "/api")]
    let off : Settings := { modules := { events := false } }
    (analyzeTree { modules := { graphql := false, httpCalls := false } } "fetch(\"/api\")"
        root).of .urls = (analyzeTree off "fetch(\"/api\")" root).of .urls
      ∧ (analyzeTree off "fetch(\"/api\")" root).of .events = []
      ∧ analyzeCalls off "fetch(\"/api\")"
          [(root, [.urls, .domSinks, .graphql, .httpCalls]),
            (.identifier ⟨0, 5⟩ "fetch", [.httpCalls, .graphql, .domSinks, .urls]),
            (.literal ⟨6, 12⟩ (.string "/api"), [.graphql, .urls, .httpCalls, .domSinks])]
        = analyzeTree off "fetch(\"/api\")" root := by
  intro root off
  obtain ⟨hswitches, hoff, horder⟩ := analyzeTree_independent off "fetch(\"/api\")" root
  refine ⟨hswitches .urls _ rfl, hoff .events rfl, horder _ ?_ ?_⟩
  · simp [visited, Node.visits, Node.visitsFrom, root, off, Node.children,
      AnalysisSettings.effectiveDepth]
  · intro c hc
    simp only [List.mem_cons, List.not_mem_nil, or_false] at hc
    rcases hc with rfl | rfl | rfl <;> decide

end Analysis

end ScriptScout
