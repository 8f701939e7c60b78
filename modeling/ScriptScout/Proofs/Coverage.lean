import Mathlib.Data.List.MinMax
import ScriptScout.Proofs.Binding

/-!
# What covers a retracted address

An address is retracted for the sake of a fuller value that a
declaration has put together from parts. Such values form chains, and
those at the top of a chain (`IsFullest`) are never retracted
themselves. So a retracted address is covered by one that stays as soon
as a fullest value around it has been reported (`retracted_covered`).

A declaration supersedes whether or not its value is worth reporting.
If it is not, the address inside it is lost without a cover: that is
what `retracted_uncovered_hint` shows of a message that quotes an
address.
-/

namespace ScriptScout

open Analysis

theorem IsProperPart.trans {a b c : String} (hab : IsProperPart a b) (hbc : IsProperPart b c) :
    IsProperPart a c := by
  have hlt := Nat.lt_trans (isProperPart_iff.mp hab).1 (isProperPart_iff.mp hbc).1
  exact ⟨hab.1.trans hbc.1, fun heq => Nat.ne_of_lt hlt (congrArg String.utf8ByteSize heq)⟩

theorem Url.isCandidate_of_isUnlikely {settings : Settings} {value : String}
    (h : value.toList.any isUnlikely = true) : isCandidate settings value = false := by
  simp only [isCandidate, h, Bool.not_true, Bool.and_false, Bool.false_and]

/-- Around a proper part of some value there is a value that is a
proper part of no other. -/
theorem exists_fullest_of_mem {values : List String} {value full : String}
    (hfull : full ∈ values) (hpart : IsProperPart value full) :
    ∃ top ∈ values, IsProperPart value top ∧ ∀ other ∈ values, ¬IsProperPart top other := by
  have hmem : full ∈ values.filter (IsProperPart value ·) :=
    List.mem_filter.mpr ⟨hfull, decide_eq_true hpart⟩
  -- the longest of the values around the part; a fuller one would be longer
  cases hmax : (values.filter (IsProperPart value ·)).argmax String.utf8ByteSize with
  | none =>
      rw [List.argmax_eq_none.mp hmax] at hmem
      cases hmem
  | some top =>
      obtain ⟨htop, hvalue⟩ := List.mem_filter.mp (List.argmax_mem hmax)
      have hvalue' : IsProperPart value top := of_decide_eq_true hvalue
      refine ⟨top, htop, hvalue', fun other hother htopother => ?_⟩
      have hother' : other ∈ values.filter (IsProperPart value ·) :=
        List.mem_filter.mpr ⟨hother, decide_eq_true (hvalue'.trans htopother)⟩
      have hle := List.le_of_mem_argmax hother' hmax
      exact absurd (isProperPart_iff.mp htopother).1 (Nat.not_lt_of_le hle)

namespace UrlUse

theorem offerOf_of_declares {a : AnalysisSettings} (htrack : a.enableVariableTracking = true)
    {b : Bindings} {n init : Node} {name raw : String} (hdecl : n.Declares name init)
    (hraw : init.resolve b = some raw) : offerOf a b n = some ⟨init.span, raw, .plain⟩ := by
  simp only [offerOf, source?, (declaration?_iff htrack).mpr hdecl, Option.bind_some, offer?,
    hraw, Option.map_some]

/-- An offer that is accepted where it is made is among the reports of
the run. -/
theorem reported_mem_scan {scene : Scene} {before after : List Node} {n : Node} {o : Offer}
    (hoffer : offerOf scene.settings.analysis
      (scan (step scene) before {}).1.bindings n = some o)
    (haccepts : Accepts scene (scan (step scene) before {}).1 o) :
    reported scene o ∈ (scan (step scene) (before ++ n :: after) {}).2 := by
  rw [scan_append, scan_cons]
  refine List.mem_append_right _ (List.mem_append_left _ ?_)
  rcases step_cases scene n (scan (step scene) before {}).1 with
    ⟨o', hoffer', -, heq⟩ | ⟨hnot, -⟩
  · obtain rfl := Option.some.inj (hoffer.symm.trans hoffer')
    rw [heq]
    exact List.mem_singleton.mpr rfl
  · exact absurd haccepts (hnot o hoffer)

end UrlUse

namespace Analysis

section

variable (settings : Settings) (source : String) (root : Node)

/-- The addresses that have been reported when `k` nodes have been
visited. -/
def reportsAt (k : Nat) : List UrlFinding :=
  (inspectAll (Scene.of source settings) (Detector.enabled settings.modules)
    ((visited settings root).take k) {}).2.urls

/-- The value is put together by a declaration of the run, and is a
proper part of no other that is. -/
def IsFullest (full : String) : Prop :=
  (∃ i init, BuildsAt settings source root i init full)
    ∧ ∀ i init other, BuildsAt settings source root i init other → ¬IsProperPart full other

end

section

variable {settings : Settings} {source : String} {root : Node}

theorem reportsAt_eq (hon : settings.modules.urls = true) (k : Nat) :
    reportsAt settings source root k =
      (scan (UrlUse.step (Scene.of source settings)) ((visited settings root).take k) {}).2 :=
  congrArg Prod.snd
    (share_inspectAll (Detector.enabled_nodup _) (Detector.mem_enabled (d := .urls) |>.mpr hon)
      (Scene.of source settings) ((visited settings root).take k) {})

theorem urls_of_mem_walk {u : UrlFinding} (hu : u ∈ (walk settings source root).2.urls) :
    settings.modules.urls = true := by
  by_contra hoff
  have hnot : Detector.urls ∉ Detector.enabled settings.modules := mt Detector.mem_enabled.mp hoff
  have hnone : (walk settings source root).2.urls = [] :=
    congrArg Prod.snd (share_inspectAll_of_not_mem hnot _ (visited settings root) {})
  rw [hnone] at hu
  cases hu

/-- Only with tracking is there anything that supersedes. -/
theorem tracking_of_mem_superseding (hon : settings.modules.urls = true) {full : String}
    (hfull : full ∈ (walk settings source root).1.superseding) :
    settings.analysis.enableVariableTracking = true := by
  by_contra hoff
  rw [walk_superseding hon, (memoryAt_of_untracked hon (Bool.eq_false_iff.mpr hoff) _).2] at hfull
  cases hfull

theorem exists_superseding_of_retracted {u : UrlFinding}
    (hu : u ∈ (walk settings source root).2.urls)
    (hgone : u ∉ (analyzeTree settings source root).urls) :
    ∃ full ∈ (walk settings source root).1.superseding, IsProperPart u.value full := by
  by_contra hnone
  exact hgone (mem_analyzeTree_urls.mpr ⟨hu, hnone⟩)

/-- What the last pass leaves alone includes every report of a fullest
value. -/
theorem mem_analyzeTree_of_isFullest (hon : settings.modules.urls = true)
    (htrack : settings.analysis.enableVariableTracking = true) {v : UrlFinding}
    (hv : v ∈ (walk settings source root).2.urls)
    (hfullest : IsFullest settings source root v.value) :
    v ∈ (analyzeTree settings source root).urls := by
  refine mem_analyzeTree_urls.mpr ⟨hv, ?_⟩
  rintro ⟨other, hother, hpart⟩
  obtain ⟨i, init, hbuilds⟩ := (mem_walk_superseding hon htrack).mp hother
  exact hfullest.2 i init other hbuilds hpart

/-- A declared value that is worth reporting is reported at its
declaration, unless the span of the initializer has a report. -/
theorem exists_report_of_givesAt (hon : settings.modules.urls = true)
    (htrack : settings.analysis.enableVariableTracking = true) {i : Nat} {name raw : String}
    {init : Node} (hgives : GivesAt settings source root i name init raw)
    (hrep : UrlUse.Reportable settings (normalizeValue raw) .plain)
    (hfree : ∀ v ∈ reportsAt settings source root i, v.span ≠ init.span) :
    ∃ v ∈ (walk settings source root).2.urls, v.span = init.span
      ∧ v.value = normalizeValue raw := by
  obtain ⟨n, hn, hdecl, hraw⟩ := hgives
  obtain ⟨hlt, rfl⟩ := List.getElem?_eq_some_iff.mp hn
  have hsplit : visited settings root = (visited settings root).take i
      ++ (visited settings root)[i] :: (visited settings root).drop (i + 1) := by
    rw [← List.drop_eq_getElem_cons hlt, List.take_append_drop]
  rw [boundAt_eq hon] at hraw
  rw [reportsAt_eq hon] at hfree
  have hoffer := UrlUse.offerOf_of_declares htrack hdecl hraw
  have hunmarked : (memoryAt settings source root i).isMarked .urls init.span = false := by
    rw [← Bool.not_eq_true, memoryAt, UrlUse.isMarked_scan_iff, State.isMarked_empty]
    rintro (hempty | ⟨v, hv, hspan⟩)
    · cases hempty
    · exact hfree v hv hspan
  have hmem : UrlUse.reported (Scene.of source settings) ⟨init.span, raw, .plain⟩ ∈
      (walk settings source root).2.urls := by
    rw [walk_urls hon, hsplit]
    exact UrlUse.reported_mem_scan hoffer ⟨hunmarked, hrep⟩
  exact ⟨_, hmem, rfl, rfl⟩

end

/-! ## An address and a template around it -/

/-- The literal of `hinted`. -/
def hintedLiteral : Node := .literal ⟨12, 24⟩ (.string "/api/users")

/-- The template of `hinted`. -/
def hintedTemplate (before after : Quasi) (name : Span) : Node :=
  .template ⟨33, 45⟩ [before, after] [.identifier name "url"]

/-- Declares an address, and then a template around its name. -/
def hinted (before after : Quasi) (name : Span) : Node :=
  .other ⟨0, 46⟩ "program" [.other ⟨0, 46⟩ "lexical_declaration"
    [.declarator ⟨6, 24⟩ (.identifier ⟨6, 9⟩ "url") (some hintedLiteral),
      .declarator ⟨26, 45⟩ (.identifier ⟨26, 30⟩ "hint")
        (some (hintedTemplate before after name))]]

section

variable {source : String} {before after : Quasi} {name : Span}

theorem visited_hinted : visited rootedOnly (hinted before after name) =
    [hinted before after name,
      .other ⟨0, 46⟩ "lexical_declaration"
        [.declarator ⟨6, 24⟩ (.identifier ⟨6, 9⟩ "url") (some hintedLiteral),
          .declarator ⟨26, 45⟩ (.identifier ⟨26, 30⟩ "hint")
            (some (hintedTemplate before after name))],
      .declarator ⟨6, 24⟩ (.identifier ⟨6, 9⟩ "url") (some hintedLiteral),
      .identifier ⟨6, 9⟩ "url", hintedLiteral,
      .declarator ⟨26, 45⟩ (.identifier ⟨26, 30⟩ "hint")
        (some (hintedTemplate before after name)),
      .identifier ⟨26, 30⟩ "hint", hintedTemplate before after name,
      .identifier name "url"] := by
  simp [visited, Node.visits, Node.visitsFrom, hinted, hintedLiteral, hintedTemplate,
    rootedOnly, Node.children, AnalysisSettings.effectiveDepth]

theorem givesAt_hinted_cases {i : Nat} {x raw : String} {init : Node}
    (h : GivesAt rootedOnly source (hinted before after name) i x init raw) :
    (i = 2 ∧ init = hintedLiteral ∧ raw = "/api/users")
      ∨ (i = 5 ∧ x = "hint" ∧ init = hintedTemplate before after name) := by
  obtain ⟨n, hn, ⟨span, id, rfl, hid⟩, hraw⟩ := h
  rw [visited_hinted] at hn
  have hlt : i < 9 := (List.getElem?_eq_some_iff.mp hn).1
  interval_cases i <;> simp [hinted, hintedLiteral, hintedTemplate] at hn
  · obtain ⟨-, -, rfl⟩ := hn
    exact Or.inl ⟨rfl, rfl, (Option.some.inj hraw).symm⟩
  · obtain ⟨-, rfl, rfl⟩ := hn
    exact Or.inr ⟨rfl, (Option.some.inj hid).symm, rfl⟩

theorem givesAt_hinted_url :
    GivesAt rootedOnly source (hinted before after name) 2 "url" hintedLiteral "/api/users" :=
  (givesAt_iff (by rw [visited_hinted]; rfl)).mpr ⟨⟨_, _, rfl, rfl⟩, rfl⟩

theorem boundAt_hinted_url :
    (boundAt rootedOnly source (hinted before after name) 5).get? "url" = some "/api/users" := by
  refine (get?_boundAt_iff rfl rfl).mpr ⟨2, by decide, ⟨_, givesAt_hinted_url⟩, ?_⟩
  intro j hj hlt init other hgives
  rcases givesAt_hinted_cases hgives with ⟨rfl, -⟩ | ⟨rfl, -⟩
  · exact absurd hlt (by decide)
  · exact absurd hj (by decide)

theorem eq_of_boundAt_hinted {k : Nat} {value : String}
    (h : (boundAt rootedOnly source (hinted before after name) k).get? "url" = some value) :
    value = "/api/users" := by
  obtain ⟨i, -, ⟨init, hgives⟩, -⟩ := (get?_boundAt_iff rfl rfl).mp h
  rcases givesAt_hinted_cases hgives with ⟨-, -, hvalue⟩ | ⟨-, hname, -⟩
  · exact hvalue
  · exact absurd hname (by decide)

theorem resolve_hintedTemplate (b : Bindings) :
    (hintedTemplate before after name).resolve b =
      some (before.raw ++ (b.get? "url").getD placeholder ++ after.raw) := rfl

theorem buildsAt_hinted :
    BuildsAt rootedOnly source (hinted before after name) 5 (hintedTemplate before after name)
      (normalizeValue (before.raw ++ "/api/users" ++ after.raw)) := by
  refine ⟨rfl, "hint", _, (givesAt_iff (by rw [visited_hinted]; rfl)).mpr ⟨⟨_, _, rfl, rfl⟩, ?_⟩,
    rfl⟩
  rw [resolve_hintedTemplate, boundAt_hinted_url]
  rfl

theorem eq_of_buildsAt_hinted {i : Nat} {init : Node} {full : String}
    (h : BuildsAt rootedOnly source (hinted before after name) i init full) :
    full = normalizeValue (before.raw ++ "/api/users" ++ after.raw) := by
  obtain ⟨hdyn, x, raw, hgives, rfl⟩ := h
  rcases givesAt_hinted_cases hgives with ⟨-, rfl, -⟩ | ⟨rfl, -, rfl⟩
  · cases hdyn
  · obtain ⟨-, -, -, hraw⟩ := hgives
    rw [resolve_hintedTemplate, boundAt_hinted_url] at hraw
    rw [← Option.some.inj hraw]
    rfl

/-- All that is offered: the literal, and the template under the names
bound so far. -/
theorem offerOf_hinted {n : Node} {b : Bindings} {o : UrlUse.Offer}
    (hn : n ∈ visited rootedOnly (hinted before after name))
    (ho : UrlUse.offerOf rootedOnly.analysis b n = some o) :
    o = ⟨⟨12, 24⟩, "/api/users", .plain⟩
      ∨ o = ⟨⟨33, 45⟩, before.raw ++ (b.get? "url").getD placeholder ++ after.raw, .plain⟩ := by
  rw [visited_hinted] at hn
  simp only [List.mem_cons, List.not_mem_nil, or_false] at hn
  rcases hn with rfl | rfl | rfl | rfl | rfl | rfl | rfl | rfl | rfl
  case inr.inr.inl => exact Or.inl (Option.some.inj ho).symm
  case inr.inr.inr.inr.inl => exact Or.inl (Option.some.inj ho).symm
  case inr.inr.inr.inr.inr.inl => exact Or.inr (Option.some.inj ho).symm
  case inr.inr.inr.inr.inr.inr.inr.inl => exact Or.inr (Option.some.inj ho).symm
  all_goals cases ho

theorem exists_report_hinted :
    ∃ u ∈ (walk rootedOnly source (hinted before after name)).2.urls, u.value = "/api/users" := by
  have hfirst : reportsAt rootedOnly source (hinted before after name) 2 = [] := by
    rw [reportsAt_eq rfl, visited_hinted]
    rfl
  obtain ⟨u, hu, -, hvalue⟩ := exists_report_of_givesAt rfl rfl givesAt_hinted_url
    (reportable_rootedOnly .plain) fun v hv => by rw [hfirst] at hv; cases hv
  exact ⟨u, hu, hvalue⟩

/-- The template is not offered before its declaration. -/
theorem reportsAt_hinted_span :
    ∀ v ∈ reportsAt rootedOnly source (hinted before after name) 5,
      v.span ≠ (hintedTemplate before after name).span := by
  rw [reportsAt_eq rfl, visited_hinted]
  intro v hv
  obtain ⟨earlier, n, later, o, hsplit, hoffer, -, rfl⟩ := UrlUse.exists_offer_of_report hv
  have hn : n ∈ earlier ++ n :: later := List.mem_append_right _ (List.mem_cons_self ..)
  rw [← hsplit] at hn
  simp only [List.take_succ_cons, List.take_zero, List.mem_cons, List.not_mem_nil,
    or_false] at hn
  rcases hn with rfl | rfl | rfl | rfl | rfl
  case inr.inr.inl =>
    obtain rfl := Option.some.inj hoffer
    exact fun h => nomatch h
  case inr.inr.inr.inr =>
    obtain rfl := Option.some.inj hoffer
    exact fun h => nomatch h
  all_goals cases hoffer

theorem reportable_rootedOnly_of {value : String} (site : Url.Site)
    (hcandidate : Url.isCandidate rootedOnly value = true)
    (hrelative : (Url.kindOf value).1 ≠ .relativePath)
    (hfile : (Url.kindOf value).1 ≠ .filePath) : UrlUse.Reportable rootedOnly value site where
  candidate := hcandidate
  relative hkind := absurd hkind hrelative
  file hkind := absurd hkind hfile
  confident := Url.not_clamp_neg _

/-- Every report of the run is of the address, or of the template
around it or around the placeholder. -/
theorem report_hinted_cases {u : UrlFinding}
    (hu : u ∈ (walk rootedOnly source (hinted before after name)).2.urls) :
    u.value = "/api/users" ∨ ∃ part ∈ ["/api/users", placeholder],
      u.value = normalizeValue (before.raw ++ part ++ after.raw)
        ∧ Url.isCandidate rootedOnly u.value = true := by
  rw [walk_urls rfl] at hu
  obtain ⟨earlier, n, later, o, hsplit, hoffer, hrep, rfl⟩ := UrlUse.exists_offer_of_report hu
  have hn : n ∈ visited rootedOnly (hinted before after name) :=
    hsplit ▸ List.mem_append_right _ (List.mem_cons_self ..)
  obtain ⟨k, hk⟩ := exists_boundAt_of_heldDuring
    (heldDuring_scan rfl source (hinted before after name) (hsplit ▸ List.prefix_append ..))
  rw [hk] at hoffer
  rcases offerOf_hinted hn hoffer with rfl | rfl
  · exact Or.inl rfl
  · refine Or.inr ⟨_, ?_, rfl, hrep.candidate⟩
    cases hurl : (boundAt rootedOnly source (hinted before after name) k).get? "url" with
    | none => exact List.mem_cons_of_mem _ (List.mem_cons_self ..)
    | some value =>
        obtain rfl := eq_of_boundAt_hinted hurl
        exact List.mem_cons_self ..

end

/-! ## Covers -/

/-- **What covers a retracted address.** There is a fullest value
around it. If that was reported, wherever it was, the report stays and
covers the address; and it was reported if it is worth it, unless the
span of the initializer that builds it had a report before. -/
theorem retracted_covered {settings : Settings} {source : String} {root : Node} {u : UrlFinding}
    (hu : u ∈ (walk settings source root).2.urls)
    (hgone : u ∉ (analyzeTree settings source root).urls) :
    (∃ full, IsFullest settings source root full ∧ IsProperPart u.value full)
    ∧ ∀ full, IsFullest settings source root full → IsProperPart u.value full →
      (∀ v ∈ (walk settings source root).2.urls, v.value = full →
        v ∈ (analyzeTree settings source root).urls ∧ IsProperPart u.value v.value)
      ∧ ∀ i init, BuildsAt settings source root i init full →
        UrlUse.Reportable settings full .plain →
        (∀ v ∈ reportsAt settings source root i, v.span ≠ init.span) →
        ∃ v ∈ (analyzeTree settings source root).urls, v.span = init.span ∧ v.value = full
          ∧ IsProperPart u.value v.value := by
  have hon := urls_of_mem_walk hu
  obtain ⟨full, hfull, hpart⟩ := exists_superseding_of_retracted hu hgone
  have htrack := tracking_of_mem_superseding hon hfull
  constructor
  · obtain ⟨top, htop, hpart', hnone⟩ := exists_fullest_of_mem hfull hpart
    refine ⟨top, ⟨(mem_walk_superseding hon htrack).mp htop, ?_⟩, hpart'⟩
    intro i init other hbuilds
    exact hnone other ((mem_walk_superseding hon htrack).mpr ⟨i, init, hbuilds⟩)
  · intro top htop hpart'
    have hstays : ∀ v ∈ (walk settings source root).2.urls, v.value = top →
        v ∈ (analyzeTree settings source root).urls ∧ IsProperPart u.value v.value := by
      rintro v hv rfl
      exact ⟨mem_analyzeTree_of_isFullest hon htrack hv htop, hpart'⟩
    refine ⟨hstays, ?_⟩
    rintro i init ⟨-, name, raw, hgives, rfl⟩ hrep hfree
    obtain ⟨v, hv, hspan, hvalue⟩ := exists_report_of_givesAt hon htrack hgives hrep hfree
    exact ⟨v, (hstays v hv hvalue).1, hspan, hvalue, (hstays v hv hvalue).2⟩

/-- A template that adds a segment to an address is reported in its
place. -/
theorem retracted_covered_segment :
    let source := "const url = \"/api/users\", hint = \x60$\x7burl\x7d/new\x60;"
    let root := hinted ⟨⟨34, 34⟩, ""⟩ ⟨⟨40, 44⟩, "/new"⟩ ⟨36, 39⟩
    ∃ u ∈ (walk rootedOnly source root).2.urls, u ∉ (analyzeTree rootedOnly source root).urls
      ∧ ∃ v ∈ (analyzeTree rootedOnly source root).urls, v.value = "/api/users/new"
        ∧ IsProperPart u.value v.value := by
  intro source root
  obtain ⟨u, hu, hvalue⟩ : ∃ u ∈ (walk rootedOnly source root).2.urls, u.value = "/api/users" :=
    exists_report_hinted
  have hbuilt : normalizeValue ("" ++ "/api/users" ++ "/new") = "/api/users/new" := by decide
  have hbuilds : BuildsAt rootedOnly source root 5
      (hintedTemplate ⟨⟨34, 34⟩, ""⟩ ⟨⟨40, 44⟩, "/new"⟩ ⟨36, 39⟩) "/api/users/new" := by
    rw [← hbuilt]
    exact buildsAt_hinted
  have hgone : u ∉ (analyzeTree rootedOnly source root).urls := fun hstays => by
    refine (mem_analyzeTree_urls.mp hstays).2 ⟨_, (mem_walk_superseding rfl rfl).mpr
      ⟨5, _, hbuilds⟩, ?_⟩
    rw [hvalue]
    decide
  obtain ⟨⟨full, hfullest, hpart⟩, hcover⟩ := retracted_covered hu hgone
  obtain ⟨⟨i, init, hbuilds'⟩, -⟩ := id hfullest
  obtain rfl : full = "/api/users/new" := (eq_of_buildsAt_hinted hbuilds').trans hbuilt
  have hrep : UrlUse.Reportable rootedOnly "/api/users/new" .plain := by
    refine reportable_rootedOnly_of .plain ?_ (by decide +kernel) (by decide +kernel)
    simp only [Url.isCandidate, entropy_rootedOnly]
    decide
  obtain ⟨v, hv, -, hfull, hcovers⟩ :=
    (hcover _ hfullest hpart).2 5 _ hbuilds hrep reportsAt_hinted_span
  exact ⟨u, hu, hgone, v, hv, hfull, hcovers⟩

/-- A message with a blank in it supersedes the address that it quotes
and is not reported itself, so nothing that stays covers the address. -/
theorem retracted_uncovered_hint :
    let source := "const url = \"/api/users\", hint = \x60see $\x7burl\x7d\x60;"
    let root := hinted ⟨⟨34, 38⟩, "see "⟩ ⟨⟨44, 44⟩, ""⟩ ⟨40, 43⟩
    ∃ u ∈ (walk rootedOnly source root).2.urls, u ∉ (analyzeTree rootedOnly source root).urls
      ∧ ¬∃ v ∈ (analyzeTree rootedOnly source root).urls, IsProperPart u.value v.value := by
  intro source root
  obtain ⟨u, hu, hvalue⟩ : ∃ u ∈ (walk rootedOnly source root).2.urls, u.value = "/api/users" :=
    exists_report_hinted
  have hmessage : normalizeValue ("see " ++ "/api/users" ++ "") = "see /api/users" := by decide
  have hsuperseding : "see /api/users" ∈ (walk rootedOnly source root).1.superseding := by
    rw [mem_walk_superseding rfl rfl, ← hmessage]
    exact ⟨5, _, buildsAt_hinted⟩
  refine ⟨u, hu, fun hstays => ?_, ?_⟩
  · refine (mem_analyzeTree_urls.mp hstays).2 ⟨_, hsuperseding, ?_⟩
    rw [hvalue]
    decide
  · rintro ⟨v, hv, hpart⟩
    rcases report_hinted_cases (mem_analyzeTree_urls.mp hv).1 with hv' | ⟨part, hmem, hv', hcand⟩
    · rw [hvalue, hv'] at hpart
      exact hpart.2 rfl
    · have hblank : ∀ part ∈ ["/api/users", placeholder],
          (normalizeValue ("see " ++ part ++ "")).toList.any Url.isUnlikely = true := by decide
      rw [hv', Url.isCandidate_of_isUnlikely (hblank part hmem)] at hcand
      cases hcand

end Analysis

end ScriptScout
