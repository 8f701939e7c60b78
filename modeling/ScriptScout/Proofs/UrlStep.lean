import Mathlib.Data.Option.Basic
import ScriptScout.Analysis.UrlUse
import ScriptScout.Proofs.Text.Parts

/-!
# What one look for addresses does

`step_cases` says all that `UrlUse.step` can do to a state, so that no
later proof opens it again. A look has two halves. `learn` takes in a
declaration: it binds the name and remembers a value that supersedes
others, and it leaves every mark alone. Then at most one offer is made,
under the names as they were *before* the look (`offerOf`), and it is
reported exactly if its span is free and its value is `Reportable`.

What a node offers is the value of the node itself or of one of its
parts (`source?_self_or_child`), never of anything further down.

A run removes an address in the end if it is a proper part of a value
that supersedes (`mem_retract`). `IsProperPart` says that of the
characters alone; the run compares byte lengths and then searches,
which comes to the same (`isProperPart_iff`). What supersedes is only
ever put together at a declaration, so a node that declares nothing
adds nothing.
-/

namespace ScriptScout

namespace UrlUse

open Url (Site)

/-! ## What is worth reporting -/

/-- A value is worth reporting from a site: it passes the gate, its
kind is not switched off, and its confidence is not too low. -/
structure Reportable (settings : Settings) (value : String) (site : Site) : Prop where
  candidate : Url.isCandidate settings value = true
  relative : (Url.classify settings value site).kind = .relativePath →
    settings.analysis.includeRelativePaths = true
  file : (Url.classify settings value site).kind = .filePath →
    settings.analysis.includeFileExtensions = true
  confident : ¬(Url.classify settings value site).details.confidence
    < settings.analysis.confidenceThreshold

theorem judge?_eq_some_iff {settings : Settings} {value : String} {site : Site}
    {c : Url.Classification} :
    judge? settings value site = some c ↔
      Reportable settings value site ∧ c = Url.classify settings value site := by
  simp only [judge?, Option.bind_eq_bind, Option.bind_eq_some_iff, Option.guard_eq_some',
    Option.pure_def, Option.some.injEq, exists_const, Bool.not_eq_true',
    Bool.and_eq_false_iff, beq_eq_false_iff_ne, Bool.not_eq_false', decide_eq_false_iff_not]
  constructor
  · rintro ⟨hcand, hrel, hfile, hconf, rfl⟩
    exact ⟨⟨hcand, fun h => hrel.resolve_left (fun hne => hne h),
      fun h => hfile.resolve_left (fun hne => hne h), hconf⟩, rfl⟩
  · rintro ⟨⟨hcand, hrel, hfile, hconf⟩, rfl⟩
    exact ⟨hcand, Decidable.not_or_of_imp hrel, Decidable.not_or_of_imp hfile, hconf, rfl⟩

theorem judge?_of_not_reportable {settings : Settings} {value : String} {site : Site}
    (h : ¬Reportable settings value site) : judge? settings value site = none := by
  cases hj : judge? settings value site with
  | none => rfl
  | some c => exact absurd (judge?_eq_some_iff.mp hj).1 h

/-! ## Reports -/

/-- The finding that an offer is reported as. -/
def reported (scene : Scene) (o : Offer) : UrlFinding :=
  let value := normalizeValue o.value
  let c := Url.classify scene.settings value o.site
  { scene.finding o.span value c.kind with details := c.details }

section

variable (scene : Scene) (o : Offer)

@[simp] theorem reported_span : (reported scene o).span = o.span := rfl

@[simp] theorem reported_value : (reported scene o).value = normalizeValue o.value := rfl

@[simp] theorem reported_kind : (reported scene o).kind =
    (Url.classify scene.settings (normalizeValue o.value) o.site).kind := by
  simp only [reported, Scene.finding]

@[simp] theorem reported_details : (reported scene o).details =
    (Url.classify scene.settings (normalizeValue o.value) o.site).details := by
  simp only [reported]

end

/-- The span of an offer is free and its value is worth reporting. -/
def Accepts (scene : Scene) (s : State) (o : Offer) : Prop :=
  s.isMarked .urls o.span = false
    ∧ Reportable scene.settings (normalizeValue o.value) o.site

theorem report_of_accepts {scene : Scene} {s : State} {o : Offer} (h : Accepts scene s o) :
    report scene o s = (s.mark .urls o.span, [reported scene o]) := by
  obtain ⟨hfree, hrep⟩ := h
  have hjudge := judge?_eq_some_iff.mpr ⟨hrep, rfl⟩
  simp only [report, hfree, hjudge, Bool.false_eq_true, if_false, reported]

theorem report_of_not_accepts {scene : Scene} {s : State} {o : Offer}
    (h : ¬Accepts scene s o) : report scene o s = (s, []) := by
  unfold report
  by_cases hmark : s.isMarked .urls o.span = true
  · rw [if_pos hmark]
  · have hrep : ¬Reportable scene.settings (normalizeValue o.value) o.site :=
      fun hr => h ⟨Bool.eq_false_iff.mpr hmark, hr⟩
    simp only [if_neg hmark, judge?_of_not_reportable hrep]

/-! ## Declarations -/

/-- The name and the initializer of a declaration that is followed. -/
def declaration? (a : AnalysisSettings) : Node → Option (String × Node)
  | .declarator _ id (some init) =>
      if a.enableVariableTracking then id.identifier?.map (·, init) else none
  | _ => none

/-- The state with a name bound; a value that is put together from
parts supersedes others as well. -/
def bindInit (s : State) (name : String) (init : Node) (value : String) : State :=
  let s := s.bind name value
  if init.isDynamic then s.supersede (normalizeValue value) else s

/-- The state with what a node declares. -/
def learn (a : AnalysisSettings) (n : Node) (s : State) : State :=
  match declaration? a n with
  | some (name, init) =>
      match init.resolve s.bindings with
      | some value => bindInit s name init value
      | none => s
  | none => s

theorem supersede_marks (s : State) (value : String) : (s.supersede value).marks = s.marks := by
  unfold State.supersede
  split <;> rfl

theorem bindInit_marks (s : State) (name : String) (init : Node) (value : String) :
    (bindInit s name init value).marks = s.marks := by
  simp only [bindInit]
  split
  · exact supersede_marks ..
  · rfl

@[simp] theorem learn_marks (a : AnalysisSettings) (n : Node) (s : State) :
    (learn a n s).marks = s.marks := by
  unfold learn
  split
  · split
    · exact bindInit_marks ..
    · rfl
  · rfl

@[simp] theorem isMarked_learn (a : AnalysisSettings) (n : Node) (s : State)
    (c : Category) (span : Span) :
    (learn a n s).isMarked c span = s.isMarked c span := by
  simp [State.isMarked]

/-! ## Offers -/

/-- The node whose value a node offers, and the site it is offered
from: the initializer of a declaration, or else the target. -/
def source? (a : AnalysisSettings) (n : Node) : Option (Node × Site) :=
  match declaration? a n with
  | some (_, init) => some (init, .plain)
  | none => target? a n

/-- The offer that a node makes under given bindings. -/
def offerOf (a : AnalysisSettings) (b : Bindings) (n : Node) : Option Offer :=
  (source? a n).bind fun (m, site) => offer? b m site

theorem offerOf_eq_some {a : AnalysisSettings} {b : Bindings} {n : Node} {o : Offer}
    (h : offerOf a b n = some o) :
    ∃ m, source? a n = some (m, o.site) ∧ o.span = m.span ∧ m.resolve b = some o.value := by
  obtain ⟨⟨m, site⟩, hsource, hoffer⟩ := Option.bind_eq_some_iff.mp h
  obtain ⟨value, hvalue, rfl⟩ := Option.map_eq_some_iff.mp hoffer
  exact ⟨m, hsource, rfl, hvalue⟩

theorem callTarget?_self_or_child {n m : Node} {site : Site}
    (h : callTarget? n = some (m, site)) : m = n ∨ m ∈ n.children := by
  cases n with
  | call span callee arguments =>
      have hfirst : ∀ {site' : Site}, (arguments.head?.map (·, site')) = some (m, site) →
          m ∈ (Node.call span callee arguments).children := by
        intro site' harg
        obtain ⟨x, hx, heq⟩ := Option.map_eq_some_iff.mp harg
        obtain ⟨rfl, -⟩ := Prod.mk.injEq .. |>.mp heq
        exact List.mem_cons_of_mem _ (List.mem_of_head? hx)
      simp only [callTarget?] at h
      split at h
      · split at h
        · exact Or.inr (hfirst h)
        · cases h
      · split at h
        · cases h
        · split at h
          · exact Or.inr (hfirst h)
          · split at h
            · exact Or.inr (hfirst h)
            · split at h
              · exact Or.inr (hfirst h)
              · split at h
                · obtain ⟨rfl, -⟩ := Prod.mk.injEq .. |>.mp (Option.some.inj h)
                  exact Or.inl rfl
                · cases h
  | _ => cases h

theorem target?_self_or_child {a : AnalysisSettings} {n m : Node} {site : Site}
    (h : target? a n = some (m, site)) : m = n ∨ m ∈ n.children := by
  cases n with
  | literal span value =>
      cases value with
      | string value =>
          obtain ⟨rfl, -⟩ := Prod.mk.injEq .. |>.mp (Option.some.inj h)
          exact Or.inl rfl
      | _ => cases h
  | template =>
      obtain ⟨rfl, -⟩ := Prod.mk.injEq .. |>.mp (Option.some.inj h)
      exact Or.inl rfl
  | binary span operator left right =>
      simp only [target?] at h
      split at h
      · obtain ⟨rfl, -⟩ := Prod.mk.injEq .. |>.mp (Option.some.inj h)
        exact Or.inl rfl
      · cases h
  | call => exact callTarget?_self_or_child h
  | assignment span operator target value =>
      simp only [target?] at h
      split at h
      · split at h
        · obtain ⟨rfl, -⟩ := Prod.mk.injEq .. |>.mp (Option.some.inj h)
          exact Or.inr (by simp [Node.children])
        · cases h
      · cases h
  | property span key value shorthand =>
      simp only [target?] at h
      split at h
      · obtain ⟨rfl, -⟩ := Prod.mk.injEq .. |>.mp (Option.some.inj h)
        exact Or.inr (by simp [Node.children])
      · cases h
  | _ => cases h

theorem declaration?_eq_some {a : AnalysisSettings} {n init : Node} {name : String}
    (h : declaration? a n = some (name, init)) :
    ∃ span id, n = .declarator span id (some init) ∧ id.identifier? = some name
      ∧ a.enableVariableTracking = true := by
  unfold declaration? at h
  split at h
  · split at h
    · next htrack =>
        obtain ⟨name', hname, heq⟩ := Option.map_eq_some_iff.mp h
        obtain ⟨rfl, rfl⟩ := Prod.mk.injEq .. |>.mp heq
        exact ⟨_, _, rfl, hname, htrack⟩
    · cases h
  · cases h

/-- A node offers its own value or that of one of its parts. -/
theorem source?_self_or_child {a : AnalysisSettings} {n m : Node} {site : Site}
    (h : source? a n = some (m, site)) : m = n ∨ m ∈ n.children := by
  unfold source? at h
  split at h
  · next name init hdecl =>
      obtain ⟨rfl, -⟩ := Prod.mk.injEq .. |>.mp (Option.some.inj h)
      obtain ⟨span, id, rfl, -⟩ := declaration?_eq_some hdecl
      exact Or.inr (by simp [Node.children])
  · exact target?_self_or_child h

/-! ## The step -/

/-- Away from declarations nothing is learned and the target is
offered. -/
theorem step_of_not_declaration {scene : Scene} {n : Node}
    (h : ∀ span id init, n ≠ .declarator span id (some init)) (s : State) :
    step scene n s =
      reportOption scene (offerOf scene.settings.analysis s.bindings n)
        (learn scene.settings.analysis n s) := by
  have hdecl : declaration? scene.settings.analysis n = none := by
    cases hd : declaration? scene.settings.analysis n with
    | none => rfl
    | some p =>
        obtain ⟨name, init⟩ := p
        obtain ⟨span, id, hn, -⟩ := declaration?_eq_some hd
        exact absurd hn (h span id init)
  unfold step
  split
  · next span id init => exact absurd rfl (h span id init)
  · simp only [offerOf, source?, learn, hdecl]

theorem step_declaration (scene : Scene) (span : Span) (id init : Node) (s : State) :
    step scene (.declarator span id (some init)) s =
      reportOption scene
        (offerOf scene.settings.analysis s.bindings (.declarator span id (some init)))
        (learn scene.settings.analysis (.declarator span id (some init)) s) := by
  simp only [step, offerOf, source?, learn, declaration?, target?, offer?]
  cases id.identifier? with
  | none => simp [reportOption]
  | some name =>
      cases scene.settings.analysis.enableVariableTracking with
      | false => simp [reportOption]
      | true =>
          cases hvalue : init.resolve s.bindings with
          | none => simp [declare, hvalue, reportOption]
          | some value => simp [declare, hvalue, reportOption, bindInit]

/-- A look learns what the node declares and then reports what the
node offers under the names as they were before. -/
theorem step_eq (scene : Scene) (n : Node) (s : State) :
    step scene n s =
      reportOption scene (offerOf scene.settings.analysis s.bindings n)
        (learn scene.settings.analysis n s) := by
  cases n with
  | declarator span id init =>
      cases init with
      | none => exact step_of_not_declaration (by simp) s
      | some init => exact step_declaration scene span id init s
  | _ => exact step_of_not_declaration (by simp) s

/-- All that a look can do: report the offer that the node makes, if it
is accepted, or report nothing. -/
theorem step_cases (scene : Scene) (n : Node) (s : State) :
    (∃ o, offerOf scene.settings.analysis s.bindings n = some o ∧ Accepts scene s o
        ∧ step scene n s =
          ((learn scene.settings.analysis n s).mark .urls o.span, [reported scene o]))
      ∨ ((∀ o, offerOf scene.settings.analysis s.bindings n = some o → ¬Accepts scene s o)
        ∧ step scene n s = (learn scene.settings.analysis n s, [])) := by
  rw [step_eq]
  have haccepts : ∀ o, Accepts scene (learn scene.settings.analysis n s) o ↔
      Accepts scene s o := fun o => by simp only [Accepts, isMarked_learn]
  cases hoffer : offerOf scene.settings.analysis s.bindings n with
  | none => exact Or.inr ⟨fun _ ho => (nomatch ho), rfl⟩
  | some o =>
      by_cases h : Accepts scene s o
      · exact Or.inl ⟨o, rfl, h, report_of_accepts ((haccepts o).mpr h)⟩
      · refine Or.inr ⟨fun o' ho' => ?_, report_of_not_accepts (mt (haccepts o).mp h)⟩
        obtain rfl := Option.some.inj ho'
        exact h

end UrlUse

/-! ## Proper parts -/

/-- The value stands inside `full` and is not all of it. -/
def IsProperPart (value full : String) : Prop :=
  value.toList <:+: full.toList ∧ value ≠ full

theorem exists_append_of_infix {value full : String} (h : value.toList <:+: full.toList) :
    ∃ before after, full = before ++ value ++ after := by
  obtain ⟨before, after, hfull⟩ := h
  refine ⟨String.ofList before, String.ofList after, String.toList_inj.mp ?_⟩
  simp only [String.toList_append, String.toList_ofList, hfull]

/-- Of a value that stands inside `full`, being shorter is the same as
being different. -/
theorem isProperPart_iff {value full : String} :
    IsProperPart value full ↔
      value.utf8ByteSize < full.utf8ByteSize
        ∧ Text.contains value.toList full.toList = true := by
  rw [Text.contains_iff, IsProperPart, and_comm]
  refine and_congr_left fun hinfix => ?_
  obtain ⟨before, after, rfl⟩ := exists_append_of_infix hinfix
  constructor
  · intro hne
    refine Nat.lt_of_not_le fun hle => hne ?_
    simp only [String.utf8ByteSize_append] at hle
    have hbefore : before = "" := String.utf8ByteSize_eq_zero_iff.mp (by omega)
    have hafter : after = "" := String.utf8ByteSize_eq_zero_iff.mp (by omega)
    simp only [hbefore, hafter, String.empty_append, String.append_empty]
  · intro hlt heq
    exact absurd (congrArg String.utf8ByteSize heq) (Nat.ne_of_lt hlt)

instance (value full : String) : Decidable (IsProperPart value full) :=
  decidable_of_iff _ isProperPart_iff.symm

example : IsProperPart "/users" "/api/users" ∧ ¬IsProperPart "/users" "/users" := by decide

/-! ## Retraction -/

theorem State.isSuperseded_iff {s : State} {value : String} :
    s.isSuperseded value = true ↔ ∃ full ∈ s.superseding, IsProperPart value full := by
  simp only [State.isSuperseded, List.any_eq_true, Bool.and_eq_true, decide_eq_true_eq,
    isProperPart_iff, gt_iff_lt]

theorem UrlUse.mem_retract {s : State} {urls : List UrlFinding} {u : UrlFinding} :
    u ∈ retract s urls ↔ u ∈ urls ∧ ¬∃ full ∈ s.superseding, IsProperPart u.value full := by
  rw [retract, List.mem_filter, Bool.not_eq_true', ← Bool.not_eq_true, State.isSuperseded_iff]

theorem UrlUse.step_superseding {scene : Scene} {n : Node}
    (h : declaration? scene.settings.analysis n = none) (s : State) :
    (step scene n s).1.superseding = s.superseding := by
  have hlearn : learn scene.settings.analysis n s = s := by simp only [learn, h]
  rcases step_cases scene n s with ⟨o, -, -, heq⟩ | ⟨-, heq⟩
  · rw [heq, hlearn]
    rfl
  · rw [heq, hlearn]

end ScriptScout
