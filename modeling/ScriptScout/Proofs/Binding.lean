import Mathlib.Tactic.IntervalCases
import ScriptScout.Proofs.UrlReport

/-!
# Names and superseding values over a run

The names bound at a moment of a run and the values that supersede at
its end are told apart from the state: a name has the value that its
last declaration gave it, among those whose initializer could be told
(`get?_boundAt_iff`), and what supersedes is what such declarations put
together from parts (`mem_walk_superseding`). Moments are numbered;
`boundAt k` are the names bound when `k` nodes have been visited.

Both are inductions over `k`. All that one look does to the names is in
`learn_cases`: it binds the name of a declaration whose initializer can
be told under the names before the look, or it leaves everything as it
was, so that a declaration that cannot be told leaves a stale value.
-/

namespace ScriptScout

open Analysis

/-- The node declares the name and gives it an initializer. -/
def Node.Declares (n : Node) (name : String) (init : Node) : Prop :=
  ∃ span id, n = .declarator span id (some init) ∧ id.identifier? = some name

@[simp] theorem Bindings.get?_bind (b : Bindings) (name value x : String) :
    (b.bind name value).get? x = if name = x then some value else b.get? x := by
  simp only [Bindings.get?, Bindings.bind, Std.HashMap.getElem?_insert, beq_iff_eq]

@[simp] theorem Bindings.get?_empty (x : String) : ({} : Bindings).get? x = none :=
  Std.HashMap.getElem?_empty

theorem State.mem_supersede {s : State} {value full : String} :
    full ∈ (s.supersede value).superseding ↔ full = value ∨ full ∈ s.superseding := by
  unfold State.supersede
  split
  · next h =>
      have hmem : value ∈ s.superseding := List.contains_iff_mem.mp h
      exact ⟨Or.inr, fun h => h.elim (fun heq => heq ▸ hmem) id⟩
  · rw [List.mem_append, List.mem_singleton, or_comm]

/-! ## One look -/

namespace UrlUse

variable {scene : Scene}

theorem declaration?_iff {a : AnalysisSettings} (htrack : a.enableVariableTracking = true)
    {n init : Node} {name : String} :
    declaration? a n = some (name, init) ↔ n.Declares name init := by
  constructor
  · intro h
    obtain ⟨span, id, hn, hid, -⟩ := declaration?_eq_some h
    exact ⟨span, id, hn, hid⟩
  · rintro ⟨span, id, rfl, hid⟩
    simp only [declaration?, htrack, if_true, hid, Option.map_some]

theorem declaration?_of_untracked {a : AnalysisSettings}
    (htrack : a.enableVariableTracking = false) (n : Node) : declaration? a n = none := by
  cases h : declaration? a n with
  | none => rfl
  | some p =>
      obtain ⟨-, -, -, -, hon⟩ := declaration?_eq_some h
      exact absurd (htrack.symm.trans hon) Bool.false_ne_true

@[simp] theorem bindInit_bindings (s : State) (name : String) (init : Node) (value : String) :
    (bindInit s name init value).bindings = s.bindings.bind name value := by
  simp only [bindInit, State.supersede]
  split
  · split <;> rfl
  · rfl

theorem mem_bindInit_superseding {s : State} {name value full : String} {init : Node} :
    full ∈ (bindInit s name init value).superseding ↔
      init.isDynamic = true ∧ full = normalizeValue value ∨ full ∈ s.superseding := by
  simp only [bindInit]
  split
  · next h =>
      rw [State.mem_supersede, and_iff_right h]
      rfl
  · next h =>
      rw [or_iff_right fun hd => h hd.1]
      rfl

/-- All that a node can teach: the value of the name that it declares,
if that can be told under the names bound so far. -/
theorem learn_cases (a : AnalysisSettings) (n : Node) (s : State) :
    (∃ name init value, declaration? a n = some (name, init)
        ∧ init.resolve s.bindings = some value ∧ learn a n s = bindInit s name init value)
      ∨ ((∀ name init, declaration? a n = some (name, init) → init.resolve s.bindings = none)
        ∧ learn a n s = s) := by
  cases hdecl : declaration? a n with
  | none =>
      refine Or.inr ⟨fun _ _ h => (nomatch h), ?_⟩
      simp only [learn, hdecl]
  | some p =>
      obtain ⟨name, init⟩ := p
      cases hvalue : init.resolve s.bindings with
      | some value =>
          refine Or.inl ⟨name, init, value, rfl, hvalue, ?_⟩
          simp only [learn, hdecl, hvalue]
      | none =>
          refine Or.inr ⟨fun name' init' h => ?_, ?_⟩
          · obtain ⟨rfl, rfl⟩ := Prod.mk.injEq .. |>.mp (Option.some.inj h)
            exact hvalue
          · simp only [learn, hdecl, hvalue]

/-- A report adds a mark to what was learned, and nothing else. -/
theorem step_learned (n : Node) (s : State) :
    (step scene n s).1.bindings = (learn scene.settings.analysis n s).bindings
      ∧ (step scene n s).1.superseding = (learn scene.settings.analysis n s).superseding := by
  rcases step_cases scene n s with ⟨o, -, -, heq⟩ | ⟨-, heq⟩
  · rw [heq]
    exact ⟨rfl, rfl⟩
  · rw [heq]
    exact ⟨rfl, rfl⟩

section

variable (htrack : scene.settings.analysis.enableVariableTracking = true)

include htrack

/-- A name has its value after a look from the declaration that was
looked at, or else it has kept it. -/
theorem get?_step_iff {n : Node} {s : State} {name value : String} :
    (step scene n s).1.bindings.get? name = some value ↔
      (∃ init, n.Declares name init ∧ init.resolve s.bindings = some value)
        ∨ ((∀ init, n.Declares name init → init.resolve s.bindings = none)
          ∧ s.bindings.get? name = some value) := by
  rw [(step_learned n s).1]
  rcases learn_cases scene.settings.analysis n s with
    ⟨name', init', value', hdecl, hvalue', heq⟩ | ⟨hnone, heq⟩
  · have hunique : ∀ {x : String} {init : Node}, n.Declares x init → name' = x ∧ init' = init := by
      intro x init hx
      have hsome := hdecl.symm.trans ((declaration?_iff htrack).mpr hx)
      exact Prod.mk.injEq .. |>.mp (Option.some.inj hsome)
    rw [heq, bindInit_bindings, Bindings.get?_bind]
    by_cases hname : name' = name
    · subst hname
      have hdeclares : n.Declares name' init' := (declaration?_iff htrack).mp hdecl
      rw [if_pos rfl]
      constructor
      · intro h
        exact Or.inl ⟨init', hdeclares, hvalue'.trans h⟩
      · rintro (⟨init, hinit, hvalue⟩ | ⟨hnone, -⟩)
        · obtain ⟨-, rfl⟩ := hunique hinit
          exact hvalue'.symm.trans hvalue
        · exact nomatch hvalue'.symm.trans (hnone init' hdeclares)
    · rw [if_neg hname, or_iff_right, and_iff_right]
      · exact fun init hinit => absurd (hunique hinit).1 hname
      · rintro ⟨init, hinit, -⟩
        exact hname (hunique hinit).1
  · have hnone' : ∀ init, n.Declares name init → init.resolve s.bindings = none :=
      fun init hinit => hnone name init ((declaration?_iff htrack).mpr hinit)
    rw [heq, or_iff_right, and_iff_right hnone']
    rintro ⟨init, hinit, hvalue⟩
    exact nomatch hvalue.symm.trans (hnone' init hinit)

theorem mem_step_superseding_iff {n : Node} {s : State} {full : String} :
    full ∈ (step scene n s).1.superseding ↔
      (∃ name init raw, n.Declares name init ∧ init.isDynamic = true
          ∧ init.resolve s.bindings = some raw ∧ full = normalizeValue raw)
        ∨ full ∈ s.superseding := by
  rw [(step_learned n s).2]
  rcases learn_cases scene.settings.analysis n s with
    ⟨name', init', raw', hdecl, hraw', heq⟩ | ⟨hnone, heq⟩
  · rw [heq, mem_bindInit_superseding]
    refine or_congr_left ⟨fun ⟨hdyn, hfull⟩ => ?_, ?_⟩
    · exact ⟨name', init', raw', (declaration?_iff htrack).mp hdecl, hdyn, hraw', hfull⟩
    · rintro ⟨name, init, raw, hinit, hdyn, hraw, hfull⟩
      have hsome := hdecl.symm.trans ((declaration?_iff htrack).mpr hinit)
      obtain ⟨rfl, rfl⟩ := Prod.mk.injEq .. |>.mp (Option.some.inj hsome)
      obtain rfl := Option.some.inj (hraw'.symm.trans hraw)
      exact ⟨hdyn, hfull⟩
  · rw [heq, or_iff_right]
    rintro ⟨name, init, raw, hinit, -, hraw, -⟩
    exact nomatch hraw.symm.trans (hnone name init ((declaration?_iff htrack).mpr hinit))

end

/-- Without tracking nothing is learned. -/
theorem step_memory_of_untracked
    (htrack : scene.settings.analysis.enableVariableTracking = false) (n : Node) (s : State) :
    (step scene n s).1.bindings = s.bindings
      ∧ (step scene n s).1.superseding = s.superseding := by
  have hlearn : learn scene.settings.analysis n s = s := by
    simp only [learn, declaration?_of_untracked htrack]
  rw [(step_learned n s).1, (step_learned n s).2, hlearn]
  exact ⟨rfl, rfl⟩

end UrlUse

/-! ## Moments of a run -/

namespace Analysis

theorem scan_take_succ {α : Type} (f : Node → State → State × List α) {ns : List Node} {k : Nat}
    {n : Node} (h : ns[k]? = some n) (s : State) :
    (scan f (ns.take (k + 1)) s).1 = (f n (scan f (ns.take k) s).1).1 := by
  rw [List.take_add_one, h, Option.toList_some, scan_append]
  rfl

theorem take_succ_of_none {ns : List Node} {k : Nat} (h : ns[k]? = none) :
    ns.take (k + 1) = ns.take k := by
  rw [List.take_add_one, h, Option.toList_none, List.append_nil]

section

variable (settings : Settings) (source : String) (root : Node)

/-- The names that are bound when `k` nodes have been visited. -/
def boundAt (k : Nat) : Bindings :=
  (inspectAll (Scene.of source settings) (Detector.enabled settings.modules)
    ((visited settings root).take k) {}).1.bindings

/-- The node visited at moment `i` declares the name with an
initializer that has the value `raw` under the names bound just
before. -/
def GivesAt (i : Nat) (name : String) (init : Node) (raw : String) : Prop :=
  ∃ n, (visited settings root)[i]? = some n ∧ n.Declares name init
    ∧ init.resolve (boundAt settings source root i) = some raw

/-- Of the first `k` visited nodes, the last that gives the name a
value gives it this one. -/
def LastGives (k : Nat) (name value : String) : Prop :=
  ∃ i < k, (∃ init, GivesAt settings source root i name init value)
    ∧ ∀ j < k, i < j → ∀ init other, ¬GivesAt settings source root j name init other

/-- A declaration that is visited at moment `i` puts the value `full`
together from parts. -/
def BuildsAt (i : Nat) (init : Node) (full : String) : Prop :=
  init.isDynamic = true
    ∧ ∃ name raw, GivesAt settings source root i name init raw ∧ full = normalizeValue raw

/-- What the detector of addresses remembers when `k` nodes have been
visited. -/
def memoryAt (k : Nat) : State :=
  (scan (UrlUse.step (Scene.of source settings)) ((visited settings root).take k) {}).1

end

section

variable {settings : Settings} {source : String} {root : Node}

theorem exists_boundAt_of_heldDuring {b : Bindings} (h : HeldDuring settings source root b) :
    ∃ k, b = boundAt settings source root k := by
  obtain ⟨before, hbefore, rfl⟩ := h
  refine ⟨before.length, ?_⟩
  rw [boundAt, ← List.prefix_iff_eq_take.mp hbefore]

theorem memoryAt_succ {k : Nat} {n : Node} (h : (visited settings root)[k]? = some n) :
    memoryAt settings source root (k + 1) =
      (UrlUse.step (Scene.of source settings) n (memoryAt settings source root k)).1 :=
  scan_take_succ _ h {}

theorem memoryAt_succ_of_none {k : Nat} (h : (visited settings root)[k]? = none) :
    memoryAt settings source root (k + 1) = memoryAt settings source root k := by
  rw [memoryAt, memoryAt, take_succ_of_none h]

theorem givesAt_iff {i : Nat} {n : Node} (h : (visited settings root)[i]? = some n)
    {name raw : String} {init : Node} :
    GivesAt settings source root i name init raw ↔
      n.Declares name init ∧ init.resolve (boundAt settings source root i) = some raw := by
  constructor
  · rintro ⟨m, hm, hgives⟩
    obtain rfl := Option.some.inj (h.symm.trans hm)
    exact hgives
  · intro hgives
    exact ⟨n, h, hgives⟩

theorem forall_not_givesAt_iff {i : Nat} {n : Node} (h : (visited settings root)[i]? = some n)
    {name : String} :
    (∀ init raw, ¬GivesAt settings source root i name init raw) ↔
      ∀ init, n.Declares name init → init.resolve (boundAt settings source root i) = none := by
  simp only [givesAt_iff h, not_and, Option.eq_none_iff_forall_ne_some]
  exact forall_congr' fun init => forall_comm

theorem not_givesAt_of_none {i : Nat} (h : (visited settings root)[i]? = none)
    (name raw : String) (init : Node) : ¬GivesAt settings source root i name init raw := by
  rintro ⟨n, hn, -⟩
  exact nomatch h.symm.trans hn

theorem lastGives_succ {k : Nat} {name value : String} :
    LastGives settings source root (k + 1) name value ↔
      (∃ init, GivesAt settings source root k name init value)
        ∨ ((∀ init other, ¬GivesAt settings source root k name init other)
          ∧ LastGives settings source root k name value) := by
  constructor
  · rintro ⟨i, hi, hgives, hlast⟩
    rcases Nat.lt_succ_iff_lt_or_eq.mp hi with hlt | rfl
    · refine Or.inr ⟨hlast k (Nat.lt_succ_self k) hlt, i, hlt, hgives, fun j hj => ?_⟩
      exact hlast j (Nat.lt_succ_of_lt hj)
    · exact Or.inl hgives
  · rintro (hgives | ⟨hnone, i, hi, hgives, hlast⟩)
    · refine ⟨k, Nat.lt_succ_self k, hgives, fun j hj hkj => ?_⟩
      omega
    · refine ⟨i, Nat.lt_succ_of_lt hi, hgives, fun j hj hij => ?_⟩
      rcases Nat.lt_succ_iff_lt_or_eq.mp hj with hlt | rfl
      · exact hlast j hlt hij
      · exact hnone

variable (hon : settings.modules.urls = true)

include hon

theorem boundAt_eq (k : Nat) :
    boundAt settings source root k = (memoryAt settings source root k).bindings :=
  congrArg (·.1.bindings)
    (share_inspectAll (Detector.enabled_nodup _) (Detector.mem_enabled (d := .urls) |>.mpr hon)
      (Scene.of source settings) ((visited settings root).take k) {})

theorem walk_superseding :
    (walk settings source root).1.superseding =
      (memoryAt settings source root (visited settings root).length).superseding := by
  rw [memoryAt, List.take_length]
  exact congrArg (·.1.superseding) (share_walk (d := .urls) hon source root)

/-- **The last declaration counts.** A name is bound to what the last
visited declaration of it gives, of those that give it anything. -/
theorem get?_boundAt_iff (htrack : settings.analysis.enableVariableTracking = true)
    {k : Nat} {name value : String} :
    (boundAt settings source root k).get? name = some value ↔
      LastGives settings source root k name value := by
  induction k with
  | zero =>
      rw [boundAt_eq hon, show memoryAt settings source root 0 = {} from rfl, Bindings.get?_empty]
      refine ⟨fun h => (nomatch h), ?_⟩
      rintro ⟨i, hi, -⟩
      exact absurd hi (Nat.not_lt_zero i)
  | succ k ih =>
      rw [lastGives_succ, ← ih, boundAt_eq hon (k + 1)]
      cases hk : (visited settings root)[k]? with
      | none =>
          have hnone : ∀ init other, ¬GivesAt settings source root k name init other :=
            fun init other => not_givesAt_of_none hk name other init
          rw [memoryAt_succ_of_none hk, ← boundAt_eq hon, or_iff_right, and_iff_right hnone]
          rintro ⟨init, hgives⟩
          exact hnone init value hgives
      | some n =>
          rw [memoryAt_succ hk, UrlUse.get?_step_iff htrack, ← boundAt_eq hon,
            forall_not_givesAt_iff hk]
          simp only [givesAt_iff hk]

/-- What supersedes after `k` nodes is what their declarations have
put together from parts. -/
theorem mem_memoryAt_superseding (htrack : settings.analysis.enableVariableTracking = true)
    {k : Nat} {full : String} :
    full ∈ (memoryAt settings source root k).superseding ↔
      ∃ i < k, ∃ init, BuildsAt settings source root i init full := by
  induction k with
  | zero =>
      refine ⟨fun h => (nomatch h), ?_⟩
      rintro ⟨i, hi, -⟩
      exact absurd hi (Nat.not_lt_zero i)
  | succ k ih =>
      have hsplit : (∃ i < k + 1, ∃ init, BuildsAt settings source root i init full) ↔
          (∃ init, BuildsAt settings source root k init full)
            ∨ ∃ i < k, ∃ init, BuildsAt settings source root i init full := by
        simp only [Nat.lt_succ_iff_lt_or_eq, or_and_right, exists_or, exists_eq_left]
        exact or_comm
      rw [hsplit, ← ih]
      cases hk : (visited settings root)[k]? with
      | none =>
          rw [memoryAt_succ_of_none hk, or_iff_right]
          rintro ⟨init, -, name, raw, hgives, -⟩
          exact not_givesAt_of_none hk name raw init hgives
      | some n =>
          rw [memoryAt_succ hk, UrlUse.mem_step_superseding_iff htrack, ← boundAt_eq hon]
          refine or_congr_left ⟨?_, ?_⟩
          · rintro ⟨name, init, raw, hdecl, hdyn, hraw, hfull⟩
            exact ⟨init, hdyn, name, raw, (givesAt_iff hk).mpr ⟨hdecl, hraw⟩, hfull⟩
          · rintro ⟨init, hdyn, name, raw, hgives, hfull⟩
            obtain ⟨hdecl, hraw⟩ := (givesAt_iff hk).mp hgives
            exact ⟨name, init, raw, hdecl, hdyn, hraw, hfull⟩

theorem mem_walk_superseding (htrack : settings.analysis.enableVariableTracking = true)
    {full : String} :
    full ∈ (walk settings source root).1.superseding ↔
      ∃ i init, BuildsAt settings source root i init full := by
  rw [walk_superseding hon, mem_memoryAt_superseding hon htrack]
  constructor
  · rintro ⟨i, -, init, hbuilds⟩
    exact ⟨i, init, hbuilds⟩
  · rintro ⟨i, init, hbuilds⟩
    obtain ⟨-, name, raw, ⟨n, hn, -⟩, -⟩ := id hbuilds
    exact ⟨i, (List.getElem?_eq_some_iff.mp hn).1, init, hbuilds⟩

/-- A node that gives the name nothing leaves it as it was. -/
theorem get?_boundAt_succ (htrack : settings.analysis.enableVariableTracking = true)
    {k : Nat} {name : String} (h : ∀ init raw, ¬GivesAt settings source root k name init raw) :
    (boundAt settings source root (k + 1)).get? name =
      (boundAt settings source root k).get? name := by
  refine Option.ext fun value => ?_
  rw [get?_boundAt_iff hon htrack, lastGives_succ, get?_boundAt_iff hon htrack, or_iff_right,
    and_iff_right h]
  rintro ⟨init, hgives⟩
  exact h init value hgives

/-- Without tracking no name is ever bound and nothing supersedes. -/
theorem memoryAt_of_untracked (htrack : settings.analysis.enableVariableTracking = false)
    (k : Nat) :
    boundAt settings source root k = {}
      ∧ (memoryAt settings source root k).superseding = [] := by
  rw [boundAt_eq hon]
  refine scan_induction _ (P := fun t _ => t.bindings = {} ∧ t.superseding = []) ⟨rfl, rfl⟩ ?_
  intro n _ t _ ht
  have htrack' : (Scene.of source settings).settings.analysis.enableVariableTracking = false :=
    htrack
  obtain ⟨hbindings, hsuperseding⟩ := UrlUse.step_memory_of_untracked htrack' n t
  exact ⟨hbindings.trans ht.1, hsuperseding.trans ht.2⟩

end

/-- No detector but that of addresses binds a name. -/
theorem step_bindings_of_ne {d : Detector} (hd : d ≠ .urls) (scene : Scene) (n : Node)
    (s : State) : (d.step scene n s).1.bindings = s.bindings := by
  have hkept := (d.look_staysIn scene n).writes s .urls hd.symm
  calc (d.step scene n s).1.bindings
      = ((d.look scene n s).1.only .urls).bindings := by rw [d.step_state]; rfl
    _ = s.bindings := by rw [hkept]; rfl

/-! ## Variables and retraction -/

section

variable {settings : Settings} {source : String} {root : Node}

theorem analyzeTree_urls_eq_filter (hon : settings.modules.urls = true)
    (htrack : settings.analysis.enableVariableTracking = true) :
    ∃ keep : UrlFinding → Bool,
      (∀ u, keep u = true ↔ ¬∃ i init full,
        BuildsAt settings source root i init full ∧ IsProperPart u.value full)
      ∧ (analyzeTree settings source root).urls =
        (walk settings source root).2.urls.filter keep := by
  refine ⟨fun u => !(walk settings source root).1.isSuperseded u.value, fun u => ?_, rfl⟩
  rw [Bool.not_eq_true', ← Bool.not_eq_true, State.isSuperseded_iff]
  simp only [mem_walk_superseding hon htrack]
  refine not_congr ⟨?_, ?_⟩
  · rintro ⟨full, ⟨i, init, hbuilds⟩, hpart⟩
    exact ⟨i, init, full, hbuilds, hpart⟩
  · rintro ⟨i, init, full, hbuilds, hpart⟩
    exact ⟨full, ⟨i, init, hbuilds⟩, hpart⟩

theorem analyzeTree_urls_of_untracked (hon : settings.modules.urls = true)
    (htrack : settings.analysis.enableVariableTracking = false) :
    (analyzeTree settings source root).urls = (walk settings source root).2.urls := by
  have hnone : (walk settings source root).1.superseding = [] := by
    rw [walk_superseding hon]
    exact (memoryAt_of_untracked hon htrack _).2
  rw [analyzeTree_eq, conclude, UrlUse.retract, List.filter_eq_self]
  intro u _
  rw [State.isSuperseded, hnone, List.any_nil, Bool.not_false]

end

/-- **Variables and retraction over a run.** With tracking, a name is
bound at every moment to what the last declaration gave it, and what is
left of the reports in the end is all of them in order but those that
are a proper part of a value that a declaration has put together,
before or after. Without tracking no name is bound, values are told
without names, and nothing is retracted. Nothing else binds a name:
neither a node that gives it no value, nor another detector. -/
theorem analyzeTree_tracks_variables {settings : Settings} (hon : settings.modules.urls = true)
    (source : String) (root : Node) :
    (settings.analysis.enableVariableTracking = true →
      (∀ k name value, (boundAt settings source root k).get? name = some value ↔
        LastGives settings source root k name value)
      ∧ (∀ k name, (∀ init raw, ¬GivesAt settings source root k name init raw) →
        (boundAt settings source root (k + 1)).get? name =
          (boundAt settings source root k).get? name)
      ∧ ∃ keep : UrlFinding → Bool,
        (∀ u, keep u = true ↔ ¬∃ i init full,
          BuildsAt settings source root i init full ∧ IsProperPart u.value full)
        ∧ (analyzeTree settings source root).urls =
          (walk settings source root).2.urls.filter keep)
    ∧ (settings.analysis.enableVariableTracking = false →
      (∀ k, boundAt settings source root k = {})
      ∧ (analyzeTree settings source root).urls = (walk settings source root).2.urls
      ∧ ∀ u ∈ (walk settings source root).2.urls, ∃ depth n, root.OccursAt depth n
        ∧ n.span = u.span ∧ (n.resolve {}).map normalizeValue = some u.value)
    ∧ ∀ d : Detector, d ≠ .urls → ∀ scene n s, (d.step scene n s).1.bindings = s.bindings := by
  refine ⟨fun htrack => ⟨?_, ?_, analyzeTree_urls_eq_filter hon htrack⟩,
    fun htrack => ⟨?_, analyzeTree_urls_of_untracked hon htrack, ?_⟩,
    fun d hd => step_bindings_of_ne hd⟩
  · intro k name value
    exact get?_boundAt_iff hon htrack
  · intro k name hnone
    exact get?_boundAt_succ hon htrack hnone
  · intro k
    exact (memoryAt_of_untracked hon htrack k).1
  · intro u hu
    obtain ⟨n, o, ⟨depth, hocc, -⟩, hspan, ⟨b, hheld, hresolve⟩, -, rfl⟩ := exists_comesFrom hon hu
    obtain ⟨k, rfl⟩ := exists_boundAt_of_heldDuring hheld
    rw [(memoryAt_of_untracked hon htrack k).1] at hresolve
    refine ⟨depth, n, hocc, hspan.symm, ?_⟩
    rw [hresolve, Option.map_some, UrlUse.reported_value]

/-- A name that is declared again without a value keeps the one it had,
and the sum that is built from it takes its place among the reports. -/
theorem analyzeTree_tracks_variables_redeclared :
    let source := "var a = \"/api/users\", a = null, b = a + \"/new\""
    let api := Node.literal ⟨8, 20⟩ (.string "/api/users")
    let sum := Node.binary ⟨36, 46⟩ "+" (.identifier ⟨36, 37⟩ "a")
      (.literal ⟨40, 46⟩ (.string "/new"))
    let root := Node.other ⟨0, 46⟩ "variable_declaration"
      [.declarator ⟨4, 20⟩ (.identifier ⟨4, 5⟩ "a") (some api),
        .declarator ⟨22, 30⟩ (.identifier ⟨22, 23⟩ "a") (some (.literal ⟨26, 30⟩ .null)),
        .declarator ⟨32, 46⟩ (.identifier ⟨32, 33⟩ "b") (some sum)]
    let untracked := { rootedOnly with
      analysis := { rootedOnly.analysis with enableVariableTracking := false } }
    (boundAt rootedOnly source root 7).get? "a" = some "/api/users"
      ∧ (∀ u ∈ (analyzeTree rootedOnly source root).urls, u.value ≠ "/api/users")
      ∧ (analyzeTree untracked source root).urls = (walk untracked source root).2.urls := by
  intro source api sum root untracked
  have hvisited : visited rootedOnly root = [root,
      .declarator ⟨4, 20⟩ (.identifier ⟨4, 5⟩ "a") (some api), .identifier ⟨4, 5⟩ "a", api,
      .declarator ⟨22, 30⟩ (.identifier ⟨22, 23⟩ "a") (some (.literal ⟨26, 30⟩ .null)),
      .identifier ⟨22, 23⟩ "a", .literal ⟨26, 30⟩ .null,
      .declarator ⟨32, 46⟩ (.identifier ⟨32, 33⟩ "b") (some sum),
      .identifier ⟨32, 33⟩ "b", sum, .identifier ⟨36, 37⟩ "a",
      .literal ⟨40, 46⟩ (.string "/new")] := by
    simp [visited, Node.visits, Node.visitsFrom, root, api, sum, rootedOnly, Node.children,
      AnalysisSettings.effectiveDepth]
  have hon : rootedOnly.modules.urls = true := rfl
  have hon' : untracked.modules.urls = true := rfl
  obtain ⟨htracked, -, -⟩ := analyzeTree_tracks_variables hon source root
  obtain ⟨hbound, -, keep, hkeep, hurls⟩ := htracked rfl
  have ha : (boundAt rootedOnly source root 7).get? "a" = some "/api/users" := by
    refine (hbound 7 "a" "/api/users").mpr ⟨1, by decide, ⟨api, ?_⟩, ?_⟩
    · exact (givesAt_iff (by rw [hvisited]; rfl)).mpr ⟨⟨_, _, rfl, rfl⟩, rfl⟩
    · rintro j hj hlt init other ⟨n, hn, ⟨span, id, rfl, -⟩, hraw⟩
      rw [hvisited] at hn
      interval_cases j <;> simp at hn
      obtain ⟨-, -, rfl⟩ := hn
      cases hraw
  have hbuilds : BuildsAt rootedOnly source root 7 sum "/api/users/new" := by
    have hsum : sum.resolve (boundAt rootedOnly source root 7) = some "/api/users/new" := by
      simp [sum, Node.resolve, runParts, Part.split?, Node.operand, Node.string?,
        Node.identifier?, ha]
    exact ⟨rfl, "b", _, (givesAt_iff (by rw [hvisited]; rfl)).mpr ⟨⟨_, _, rfl, rfl⟩, hsum⟩,
      by decide⟩
  refine ⟨ha, fun u hu hvalue => ?_, ?_⟩
  · rw [hurls] at hu
    refine (hkeep u).mp (List.mem_filter.mp hu).2 ⟨7, sum, _, hbuilds, ?_⟩
    rw [hvalue]
    decide
  · obtain ⟨-, huntracked, -⟩ := analyzeTree_tracks_variables hon' source root
    exact (huntracked rfl).2.1

end Analysis

end ScriptScout
