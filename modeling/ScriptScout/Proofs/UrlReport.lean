import Mathlib.Tactic.SplitIfs
import ScriptScout.Proofs.Distinct
import ScriptScout.Proofs.Occurrence
import ScriptScout.Proofs.UrlStep

/-!
# What is reported as an address

Two sides of one question. No string that is worth reporting is missed
if the walk comes by it, and nothing is reported that does not go back
to a node of the tree.

Both rest on the marks. A parent can offer a literal before the walk
comes to the literal itself, and an offer that is turned down must not
block a later one; this is so because the marked spans are exactly the
reported ones (`isMarked_scan_iff`). A span that is marked when a node
offers it therefore has its report already, and one that is free gets
it now.
-/

namespace ScriptScout

open Analysis

/-! ## Lone runs -/

namespace UrlUse

variable {scene : Scene}

/-- The marked spans are those that were marked at the start and those
of the reports. -/
theorem isMarked_scan_iff {ns : List Node} {s : State} {x : Span} :
    (scan (step scene) ns s).1.isMarked .urls x = true ↔
      s.isMarked .urls x = true ∨ ∃ u ∈ (scan (step scene) ns s).2, u.span = x := by
  refine scan_induction (step scene)
    (P := fun t out => t.isMarked .urls x = true ↔
      s.isMarked .urls x = true ∨ ∃ u ∈ out, u.span = x) (by simp) ?_
  intro n _ t out hP
  rcases step_cases scene n t with ⟨o, -, -, heq⟩ | ⟨-, heq⟩
  · rw [heq, State.isMarked_mark_self, isMarked_learn, Bool.or_eq_true, hP, beq_iff_eq]
    simp only [List.mem_append, List.mem_singleton, or_and_right, exists_or,
      exists_eq_left, reported_span]
    rw [or_comm, or_assoc]
  · rw [heq, isMarked_learn, hP, List.append_nil]

/-- A look at a node that offers a value worth reporting leaves the
span marked: it was marked before, or it is reported now. -/
theorem isMarked_step_of_reportable {n : Node} {s : State} {o : Offer}
    (hoffer : offerOf scene.settings.analysis s.bindings n = some o)
    (hrep : Reportable scene.settings (normalizeValue o.value) o.site) :
    (step scene n s).1.isMarked .urls o.span = true := by
  rcases step_cases scene n s with ⟨o', hoffer', -, heq⟩ | ⟨hnot, heq⟩
  · obtain rfl := Option.some.inj (hoffer.symm.trans hoffer')
    rw [heq, State.isMarked_mark_self, beq_self_eq_true, Bool.true_or]
  · rw [heq, isMarked_learn]
    exact Bool.of_not_eq_false fun hfree => hnot o hoffer ⟨hfree, hrep⟩

/-- An offer that is worth reporting has a report under its span by the
end of the run. -/
theorem exists_report_of_offer {before after : List Node} {n : Node} {o : Offer}
    (hoffer : offerOf scene.settings.analysis
      (scan (step scene) before {}).1.bindings n = some o)
    (hrep : Reportable scene.settings (normalizeValue o.value) o.site) :
    ∃ u ∈ (scan (step scene) (before ++ n :: after) {}).2, u.span = o.span := by
  have hstep := isMarked_step_of_reportable hoffer hrep
  have hend : (scan (step scene) (before ++ n :: after) {}).1.isMarked .urls o.span = true := by
    rw [scan_append, scan_cons]
    exact isMarked_scan_iff.mpr (Or.inl hstep)
  refine (isMarked_scan_iff.mp hend).resolve_left fun hempty => ?_
  rw [State.isMarked_empty] at hempty
  cases hempty

/-- Every report goes back to an offer that was worth reporting, made
by a node under the names bound by the nodes before it. -/
theorem exists_offer_of_report {ns : List Node} {u : UrlFinding}
    (hu : u ∈ (scan (step scene) ns {}).2) :
    ∃ before n after o, ns = before ++ n :: after
      ∧ offerOf scene.settings.analysis (scan (step scene) before {}).1.bindings n = some o
      ∧ Reportable scene.settings (normalizeValue o.value) o.site
      ∧ u = reported scene o := by
  obtain ⟨before, n, after, hns, hmem⟩ := exists_of_mem_scan _ hu
  rcases step_cases scene n (scan (step scene) before {}).1 with
    ⟨o, hoffer, ⟨-, hrep⟩, heq⟩ | ⟨-, heq⟩
  · rw [heq] at hmem
    exact ⟨before, n, after, o, hns, hoffer, hrep, List.mem_singleton.mp hmem⟩
  · rw [heq] at hmem
    cases hmem

end UrlUse

/-! ## Classification -/

namespace Url

theorem not_clamp_neg (x : Float) : ¬clamp x < 0 := by
  unfold clamp
  split
  · decide
  · split
    · decide
    · assumption

/-- A candidate holds a slash, and a bare host does not. -/
theorem isHostname_of_isCandidate {settings : Settings} {value : String}
    (h : isCandidate settings value = true) : isHostname value = false := by
  simp only [isCandidate, Bool.and_eq_true] at h
  have hslash : value.toList.contains '/' = true := h.1.1.1.1.2
  simp only [isHostname, hslash, Bool.not_true, Bool.and_false, Bool.false_and]

theorem classify_kind (settings : Settings) (value : String) (site : Site) :
    (classify settings value site).kind = (kindOf value).1 := rfl

theorem kind_eq_fullUrl_iff {settings : Settings} {value : String}
    (h : isCandidate settings value = true) (site : Site) :
    (classify settings value site).kind = .fullUrl ↔ isFull value = true := by
  have hhost := isHostname_of_isCandidate h
  rw [classify_kind, kindOf]
  constructor
  · intro hkind
    by_contra hfull
    rw [if_neg hfull, hhost, if_neg Bool.false_ne_true] at hkind
    split_ifs at hkind
  · intro hfull
    rw [if_pos hfull]

end Url

/-! ## Walks -/

@[simp] theorem Scene.of_settings (source : String) (settings : Settings) :
    (Scene.of source settings).settings = settings := rfl

namespace Analysis

theorem mem_visited {settings : Settings} {root n : Node} :
    n ∈ visited settings root ↔
      ∃ depth, root.OccursAt depth n ∧ depth ≤ settings.analysis.effectiveDepth := by
  rw [visited, List.mem_map]
  constructor
  · rintro ⟨v, hv, rfl⟩
    exact ⟨v.depth, Node.mem_visits.mp hv⟩
  · rintro ⟨depth, hocc, hdepth⟩
    exact ⟨⟨depth, n⟩, Node.mem_visits.mpr ⟨hocc, hdepth⟩, rfl⟩

/-- The bindings held at some moment of a run: after some of the nodes
that it visits, in order. -/
def HeldDuring (settings : Settings) (source : String) (root : Node) (b : Bindings) : Prop :=
  ∃ before, before <+: visited settings root ∧
    (inspectAll (Scene.of source settings) (Detector.enabled settings.modules)
      before {}).1.bindings = b

section

variable {settings : Settings} (hon : settings.modules.urls = true) (source : String)
  (root : Node)

include hon

theorem walk_urls :
    (walk settings source root).2.urls =
      (scan (UrlUse.step (Scene.of source settings)) (visited settings root) {}).2 :=
  congrArg Prod.snd (share_walk (d := .urls) hon source root)

theorem walk_superseding_of_not_declaration
    (hns : ∀ n ∈ visited settings root, UrlUse.declaration? settings.analysis n = none) :
    (walk settings source root).1.superseding = [] := by
  have hwalk : (walk settings source root).1.superseding =
      (scan (UrlUse.step (Scene.of source settings)) (visited settings root) {}).1.superseding :=
    congrArg (·.1.superseding) (share_walk (d := .urls) hon source root)
  rw [hwalk]
  exact scan_induction _ (P := fun t _ => t.superseding = []) rfl fun n hn t _ ht =>
    (UrlUse.step_superseding (hns n hn) t).trans ht

theorem heldDuring_scan {before : List Node} (hbefore : before <+: visited settings root) :
    HeldDuring settings source root
      (scan (UrlUse.step (Scene.of source settings)) before {}).1.bindings :=
  ⟨before, hbefore, congrArg (·.1.bindings)
    (share_inspectAll (Detector.enabled_nodup _) (Detector.mem_enabled (d := .urls) |>.mpr hon)
      (Scene.of source settings) before {})⟩

end

/-! ## Reports of a walk -/

theorem filter_eq_singleton_of_nodup {α β : Type} [BEq β] [LawfulBEq β] {f : α → β}
    {l : List α} (hnd : (l.map f).Nodup) {a : α} (ha : a ∈ l) :
    l.filter (f · == f a) = [a] := by
  induction l with
  | nil => cases ha
  | cons b l ih =>
      obtain ⟨hb, hnd'⟩ := List.nodup_cons.mp hnd
      rcases List.mem_cons.mp ha with rfl | ha'
      · rw [List.filter_cons, if_pos (beq_self_eq_true (f a)), List.filter_eq_nil_iff.mpr]
        intro c hc heq
        exact hb (eq_of_beq heq ▸ List.mem_map_of_mem hc)
      · rw [List.filter_cons_of_neg, ih hnd' ha']
        intro heq
        exact hb (eq_of_beq heq ▸ List.mem_map_of_mem ha')

section

variable {settings : Settings} {source : String} {root : Node}

/-- A visited node whose offer does not depend on the names that are
bound, and is worth reporting, has a report under the span it offers. -/
theorem exists_walk_report (hon : settings.modules.urls = true) (source : String) {n : Node}
    (hn : n ∈ visited settings root) {o : UrlUse.Offer}
    (hoffer : ∀ b, UrlUse.offerOf settings.analysis b n = some o)
    (hrep : UrlUse.Reportable settings (normalizeValue o.value) o.site) :
    ∃ u ∈ (walk settings source root).2.urls, u.span = o.span := by
  obtain ⟨before, after, hsplit⟩ := List.append_of_mem hn
  rw [walk_urls hon, hsplit]
  exact UrlUse.exists_report_of_offer (hoffer _) hrep

/-- No two reports of a walk stand under one span, so one that does is
the only one. -/
theorem walk_urls_filter_span (hon : settings.modules.urls = true) {u : UrlFinding}
    (hu : u ∈ (walk settings source root).2.urls) :
    (walk settings source root).2.urls.filter (·.span == u.span) = [u] := by
  rw [walk_urls hon] at hu ⊢
  have hnd := (scan_claimed (UrlUse.takes (Scene.of source settings))
    (visited settings root) {}).1
  exact filter_eq_singleton_of_nodup hnd hu

/-- What is left of the reports of a walk in the end. -/
theorem mem_analyzeTree_urls {u : UrlFinding} :
    u ∈ (analyzeTree settings source root).urls ↔
      u ∈ (walk settings source root).2.urls
        ∧ ¬∃ full ∈ (walk settings source root).1.superseding, IsProperPart u.value full := by
  rw [analyzeTree_eq, conclude, UrlUse.mem_retract]

/-! ## Where reports come from -/

/-- Where a report comes from: a node of the tree whose value, under
bindings that held during the run, is worth reporting. -/
structure ComesFrom (settings : Settings) (source : String) (root : Node) (u : UrlFinding)
    (n : Node) (o : UrlUse.Offer) : Prop where
  occurs : ∃ depth, root.OccursAt depth n ∧ depth ≤ settings.analysis.effectiveDepth + 1
  span : o.span = n.span
  resolves : ∃ b, HeldDuring settings source root b ∧ n.resolve b = some o.value
  reportable : UrlUse.Reportable settings (normalizeValue o.value) o.site
  reported : u = UrlUse.reported (Scene.of source settings) o

/-- A part of a visited node can lie one level below the bound. -/
theorem source?_occurs {n m : Node} {site : Url.Site} (hn : n ∈ visited settings root)
    (h : UrlUse.source? settings.analysis n = some (m, site)) :
    ∃ depth, root.OccursAt depth m ∧ depth ≤ settings.analysis.effectiveDepth + 1 := by
  obtain ⟨depth, hocc, hdepth⟩ := mem_visited.mp hn
  rcases UrlUse.source?_self_or_child h with rfl | hchild
  · exact ⟨depth, hocc, Nat.le_succ_of_le hdepth⟩
  · exact ⟨depth + 1, hocc.child hchild, Nat.succ_le_succ hdepth⟩

theorem exists_comesFrom (hon : settings.modules.urls = true) {u : UrlFinding}
    (hu : u ∈ (walk settings source root).2.urls) :
    ∃ n o, ComesFrom settings source root u n o := by
  rw [walk_urls hon] at hu
  obtain ⟨before, n, after, o, hsplit, hoffer, hrep, hreported⟩ :=
    UrlUse.exists_offer_of_report hu
  obtain ⟨m, hsource, hspan, hvalue⟩ := UrlUse.offerOf_eq_some hoffer
  have hn : n ∈ visited settings root := hsplit ▸ List.mem_append_right _ (List.mem_cons_self ..)
  have hbefore : before <+: visited settings root := hsplit ▸ List.prefix_append ..
  exact ⟨m, o, source?_occurs hn hsource, hspan,
    ⟨_, heldDuring_scan hon source root hbefore, hvalue⟩, hrep, hreported⟩

/-! ## No literal is missed -/

/-- **No reachable literal is missed.** A string literal within the
bound of the walk that is worth reporting on its own has exactly one
report under its span when the walk ends. If its span is its own, the
report is of its value, and stays unless that is a proper part of a
value that the run found to supersede. -/
theorem literal_reported (source : String) {span : Span} {raw : String} {depth : Nat}
    (hon : settings.modules.urls = true)
    (hocc : root.OccursAt depth (.literal span (.string raw)))
    (hdepth : depth ≤ settings.analysis.effectiveDepth)
    (hrep : UrlUse.Reportable settings (normalizeValue raw) .plain) :
    ∃ u, (walk settings source root).2.urls.filter (·.span == span) = [u]
      ∧ ((∀ d m, root.OccursAt d m → m.span = span → m = .literal span (.string raw)) →
        u.value = normalizeValue raw
          ∧ (u ∈ (analyzeTree settings source root).urls ↔
            ¬∃ full ∈ (walk settings source root).1.superseding,
              IsProperPart (normalizeValue raw) full)) := by
  have hn := mem_visited.mpr ⟨depth, hocc, hdepth⟩
  obtain ⟨u, hu, rfl⟩ := exists_walk_report hon source hn
    (o := ⟨span, raw, .plain⟩) (fun _ => rfl) hrep
  refine ⟨u, walk_urls_filter_span hon hu, fun hown => ?_⟩
  have hvalue : u.value = normalizeValue raw := by
    obtain ⟨n, o, ⟨d, hd, -⟩, hspan, ⟨b, -, hresolve⟩, -, hreported⟩ := exists_comesFrom hon hu
    -- a parent may have made the offer, but then it offered this very literal
    have hn' : n.span = u.span := by rw [hreported, UrlUse.reported_span, hspan]
    obtain rfl := hown d n hd hn'
    rw [hreported, UrlUse.reported_value, ← Option.some.inj hresolve]
  refine ⟨hvalue, ?_⟩
  rw [mem_analyzeTree_urls, hvalue]
  exact and_iff_right hu

end

/-- Settings that take neither relative paths nor files, ask for no
confidence and set no bound to the entropy, since nothing is as large
as what is not a number. -/
def rootedOnly : Settings where
  analysis :=
    { confidenceThreshold := 0, includeRelativePaths := false, includeFileExtensions := false }
  heuristics := { entropyThreshold := 0.0 / 0.0 }

theorem entropy_rootedOnly (cs : List Char) :
    decide (Url.entropy cs ≥ rootedOnly.heuristics.entropyThreshold) = false := rfl

theorem reportable_rootedOnly (site : Url.Site) :
    UrlUse.Reportable rootedOnly "/api/users" site where
  candidate := by
    simp only [Url.isCandidate, entropy_rootedOnly]
    decide
  relative hkind := absurd hkind (by rw [Url.classify_kind]; decide +kernel)
  file hkind := absurd hkind (by rw [Url.classify_kind]; decide +kernel)
  confident := Url.not_clamp_neg _

/-- A call offers its argument before the walk comes to it; the literal
is reported once, with its own value. -/
theorem literal_reported_fetch :
    let root := Node.call ⟨0, 19⟩ (.identifier ⟨0, 5⟩ "fetch")
      [.literal ⟨6, 18⟩ (.string "/api/users")]
    ∃ u, (walk rootedOnly "fetch(\"/api/users\")" root).2.urls.filter (·.span == ⟨6, 18⟩) = [u]
      ∧ u.value = "/api/users"
      ∧ u ∈ (analyzeTree rootedOnly "fetch(\"/api/users\")" root).urls := by
  intro root
  have hchild : Node.literal ⟨6, 18⟩ (.string "/api/users") ∈ root.children := by
    simp [root, Node.children]
  have hnodes : ∀ d m, root.OccursAt d m → m = root ∨ m = .identifier ⟨0, 5⟩ "fetch"
      ∨ m = .literal ⟨6, 18⟩ (.string "/api/users") := by
    intro d m hocc
    induction hocc with
    | root => exact Or.inl rfl
    | child _ hm ih =>
        rcases ih with rfl | rfl | rfl
        · exact Or.inr (by simpa [root, Node.children] using hm)
        · cases hm
        · cases hm
  obtain ⟨u, hone, hown⟩ := literal_reported "fetch(\"/api/users\")" rfl
    (Node.OccursAt.root.child hchild) (by decide) (reportable_rootedOnly .plain)
  obtain ⟨hvalue, hstays⟩ := hown fun d m hocc hspan => by
    rcases hnodes d m hocc with rfl | rfl | rfl
    · cases hspan
    · cases hspan
    · rfl
  refine ⟨u, hone, hvalue, hstays.mpr ?_⟩
  rw [walk_superseding_of_not_declaration rfl]
  · rintro ⟨full, hfull, -⟩
    cases hfull
  · intro n hn
    obtain ⟨d, hocc, -⟩ := mem_visited.mp hn
    rcases hnodes d n hocc with rfl | rfl | rfl <;> rfl

/-! ## Every report is justified -/

theorem urls_of_mem_analyzeTree {settings : Settings} {source : String} {root : Node}
    {u : UrlFinding} (hu : u ∈ (analyzeTree settings source root).urls) :
    settings.modules.urls = true := by
  by_contra hoff
  have hnone : (analyzeTree settings source root).urls = [] :=
    analyzeTree_of_disabled (d := .urls) (Bool.eq_false_iff.mpr hoff) source root
  rw [hnone] at hu
  cases hu

/-- **Every reported address is justified.** It is the value, under
bindings that held during the run, of a node at most one level below
the bound of the walk; it passes the gate; its kind and details are
those of its classification at one of the sites, and are not switched
off; and it is a whole address exactly by its own shape, never for
being a bare host. -/
theorem analyzeTree_urls_justified {settings : Settings} {source : String} {root : Node}
    {u : UrlFinding} (hu : u ∈ (analyzeTree settings source root).urls) :
    (∃ depth n b, root.OccursAt depth n ∧ depth ≤ settings.analysis.effectiveDepth + 1
        ∧ n.span = u.span ∧ HeldDuring settings source root b
        ∧ (n.resolve b).map normalizeValue = some u.value)
      ∧ Url.isCandidate settings u.value = true
      ∧ (∃ site, u.kind = (Url.classify settings u.value site).kind
        ∧ u.details = (Url.classify settings u.value site).details)
      ∧ ¬u.details.confidence < settings.analysis.confidenceThreshold
      ∧ (settings.analysis.includeRelativePaths = false → u.kind ≠ .relativePath)
      ∧ (settings.analysis.includeFileExtensions = false → u.kind ≠ .filePath)
      ∧ (u.kind = .fullUrl ↔ Url.isFull u.value = true)
      ∧ Url.isHostname u.value = false := by
  obtain ⟨n, o, ⟨depth, hocc, hdepth⟩, hspan, ⟨b, hheld, hresolve⟩, hrep, hreported⟩ :=
    exists_comesFrom (urls_of_mem_analyzeTree hu) (mem_analyzeTree_urls.mp hu).1
  rw [hreported, UrlUse.reported_span, UrlUse.reported_value, UrlUse.reported_kind,
    UrlUse.reported_details, Scene.of_settings]
  refine ⟨⟨depth, n, b, hocc, hdepth, hspan.symm, hheld, ?_⟩, hrep.candidate,
    ⟨o.site, rfl, rfl⟩, hrep.confident, ?_, ?_, Url.kind_eq_fullUrl_iff hrep.candidate o.site,
    Url.isHostname_of_isCandidate hrep.candidate⟩
  · rw [hresolve, Option.map_some]
  · intro hoff hkind
    exact Bool.false_ne_true (hoff.symm.trans (hrep.relative hkind))
  · intro hoff hkind
    exact Bool.false_ne_true (hoff.symm.trans (hrep.file hkind))

/-- An address that a call is given in two parts, neither of which is
all of it. -/
theorem analyzeTree_urls_justified_sum :
    let source := "fetch(\"/api\" + \"/users\")"
    let sum := Node.binary ⟨6, 23⟩ "+" (.literal ⟨6, 12⟩ (.string "/api"))
      (.literal ⟨15, 23⟩ (.string "/users"))
    let root := Node.call ⟨0, 24⟩ (.identifier ⟨0, 5⟩ "fetch") [sum]
    ∃ u ∈ (analyzeTree rootedOnly source root).urls, u.span = ⟨6, 23⟩
      ∧ (∃ depth n b, root.OccursAt depth n
        ∧ depth ≤ rootedOnly.analysis.effectiveDepth + 1 ∧ n.span = u.span
        ∧ HeldDuring rootedOnly source root b
        ∧ (n.resolve b).map normalizeValue = some u.value)
      ∧ Url.isCandidate rootedOnly u.value = true
      ∧ u.kind ≠ .relativePath ∧ u.kind ≠ .filePath
      ∧ (u.kind = .fullUrl ↔ Url.isFull u.value = true) := by
  intro source sum root
  have hvisited : visited rootedOnly root = [root, .identifier ⟨0, 5⟩ "fetch", sum,
      .literal ⟨6, 12⟩ (.string "/api"), .literal ⟨15, 23⟩ (.string "/users")] := by
    simp [visited, Node.visits, Node.visitsFrom, root, sum, rootedOnly, Node.children,
      AnalysisSettings.effectiveDepth]
  have hresolve : ∀ b, sum.resolve b = some "/api/users" := by
    intro b
    simp [sum, Node.resolve, runParts, Part.split?, Node.operand, Node.string?]
  have hoffer : ∀ b, UrlUse.offerOf rootedOnly.analysis b root =
      some ⟨⟨6, 23⟩, "/api/users", .call⟩ := fun b =>
    congrArg (Option.map fun value => (⟨⟨6, 23⟩, value, .call⟩ : UrlUse.Offer)) (hresolve b)
  have hroot : root ∈ visited rootedOnly root := hvisited ▸ List.mem_cons_self ..
  obtain ⟨u, hu, hspan⟩ := exists_walk_report rfl source hroot hoffer (reportable_rootedOnly .call)
  have hstays : u ∈ (analyzeTree rootedOnly source root).urls := by
    rw [mem_analyzeTree_urls, walk_superseding_of_not_declaration rfl]
    · refine ⟨hu, ?_⟩
      rintro ⟨full, hfull, -⟩
      cases hfull
    · simp [hvisited, root, sum, UrlUse.declaration?]
  obtain ⟨horigin, hcandidate, -, -, hrelative, hfile, hfull, -⟩ :=
    analyzeTree_urls_justified hstays
  exact ⟨u, hstays, hspan, horigin, hcandidate, hrelative rfl, hfile rfl, hfull⟩

end Analysis

end ScriptScout
