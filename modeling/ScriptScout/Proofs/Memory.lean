import ScriptScout.Analysis.Run
import ScriptScout.Proofs.UrlStep

/-!
# Who remembers what

The detectors share one `State`, but each has a part of it to itself:
the sets of spans that it marks, and for the detector of addresses the
bound names and the superseding values as well. `State.only d` keeps
the part of `d` and blanks the rest.

`StaysIn d f` says that `f` works within the part of `d`: blanking the
rest beforehand changes neither what `f` reports nor what it leaves in
that part, and the parts of the others come out as they went in. Every
detector stays in its own part. The proofs follow the shape of the
steps, one lemma for each way to build a step from smaller ones.
-/

namespace ScriptScout

/-! ## Marks -/

@[simp] theorem State.isMarked_mark_self (s : State) (c : Category) (span x : Span) :
    (s.mark c span).isMarked c x = (span == x || s.isMarked c x) := by
  cases c <;> exact Std.HashSet.contains_insert

theorem State.isMarked_mark_of_ne {c c' : Category} (h : c ≠ c') (s : State) (span x : Span) :
    (s.mark c span).isMarked c' x = s.isMarked c' x := by
  cases c <;> cases c' <;> first | rfl | exact absurd rfl h

theorem State.isMarked_empty (c : Category) (x : Span) :
    ({} : State).isMarked c x = false := by
  cases c <;> exact Std.HashSet.contains_empty

/-! ## Parts of the memory -/

/-- The detector that a category belongs to. -/
def Category.owner : Category → Detector
  | .urls => .urls
  | .graphql | .graphqlTemplates => .graphql
  | .domSinks => .domSinks
  | .events | .locationWrites => .events
  | .httpCalls => .httpCalls

/-- What one detector remembers; what the others remember is blank. -/
def State.only (s : State) : Detector → State
  | .httpCalls => { marks := { httpCalls := s.marks.httpCalls } }
  | .graphql =>
      { marks :=
          { graphql := s.marks.graphql, graphqlTemplates := s.marks.graphqlTemplates } }
  | .domSinks => { marks := { domSinks := s.marks.domSinks } }
  | .urls =>
      { bindings := s.bindings, marks := { urls := s.marks.urls },
        superseding := s.superseding }
  | .events =>
      { marks := { events := s.marks.events, locationWrites := s.marks.locationWrites } }

@[simp] theorem State.only_empty (d : Detector) : ({} : State).only d = {} := by
  cases d <;> rfl

theorem State.only_mark_owner (s : State) (c : Category) (span : Span) :
    (s.mark c span).only c.owner = (s.only c.owner).mark c span := by
  cases c <;> rfl

theorem State.only_mark_of_ne {c : Category} {d : Detector} (h : d ≠ c.owner)
    (s : State) (span : Span) : (s.mark c span).only d = s.only d := by
  cases c <;> cases d <;> first | rfl | exact absurd rfl h

/-! ## Steps that stay in one part -/

/-- `f` reads and writes the memory of `d` and of no other detector. -/
structure StaysIn (d : Detector) {α : Type} (f : State → State × α) : Prop where
  reads : ∀ s, f (s.only d) = ((f s).1.only d, (f s).2)
  writes : ∀ s e, e ≠ d → (f s).1.only e = s.only e

namespace StaysIn

variable {d : Detector} {α : Type}

theorem pass (out : α) : StaysIn d fun s => (s, out) :=
  ⟨fun _ => rfl, fun _ _ _ => rfl⟩

theorem marking (c : Category) (span : Span) {f : State → State × α}
    (hf : StaysIn c.owner f) : StaysIn c.owner fun s => f (s.mark c span) where
  reads s := by
    rw [← State.only_mark_owner]
    exact hf.reads _
  writes s e he := by
    rw [hf.writes _ e he, State.only_mark_of_ne he]

theorem cond {b : State → Bool} {f g : State → State × α}
    (hb : ∀ s, b (s.only d) = b s) (hf : StaysIn d f) (hg : StaysIn d g) :
    StaysIn d fun s => if b s then f s else g s where
  reads s := by
    simp only [hb]
    split
    · exact hf.reads s
    · exact hg.reads s
  writes s e he := by
    split
    · exact hf.writes s e he
    · exact hg.writes s e he

end StaysIn

theorem HttpCall.staysIn (scene : Scene) (n : Node) :
    StaysIn .httpCalls (HttpCall.step scene n) :=
  .cond (fun _ => rfl) (.marking .httpCalls n.span (.pass _)) (.pass [])

theorem Sink.staysIn (scene : Scene) (n : Node) : StaysIn .domSinks (Sink.step scene n) :=
  .cond (fun _ => rfl) (.marking .domSinks n.span (.pass _)) (.pass [])

theorem GraphqlText.report_staysIn (scene : Scene) (span : Span) (value : String) :
    StaysIn .graphql (GraphqlText.report scene span value) :=
  .cond (fun _ => rfl) (.pass []) (.marking .graphql span (.pass _))

theorem GraphqlText.staysIn (scene : Scene) (n : Node) :
    StaysIn .graphql (GraphqlText.step scene n) := by
  have hreport (b : Bool) (span : Span) (value : String) :
      StaysIn .graphql fun s => if b then report scene span value s else (s, []) :=
    .cond (fun _ => rfl) (report_staysIn scene span value) (.pass [])
  cases n with
  | literal span value =>
      cases value with
      | string value => exact hreport _ span value
      | _ => exact .pass []
  | template span quasis _ =>
      exact .cond (fun _ => rfl)
        (.marking .graphqlTemplates span (report_staysIn scene span _)) (.pass [])
  | tagged span tag template =>
      cases template with
      | template inner quasis _ => exact .marking .graphqlTemplates inner (hreport _ span _)
      | _ => exact .marking .graphqlTemplates _ (.pass [])
  | call span callee arguments =>
      cases h : decodedDocument? callee arguments with
      | none =>
          have heq : step scene (.call span callee arguments) = fun s => (s, []) := by
            funext s; simp only [step, h]
          exact heq ▸ .pass []
      | some document =>
          have heq : step scene (.call span callee arguments) = fun s =>
              if isPlausibleHere scene document.2 then report scene document.1 document.2 s
              else (s, []) := by
            funext s; simp only [step, h]
          exact heq ▸ hreport _ document.1 document.2
  | object span properties =>
      cases h : objectDocument? (.object span properties) with
      | none =>
          have heq : step scene (.object span properties) = fun s => (s, []) := by
            funext s; simp only [step, h]
          exact heq ▸ .pass []
      | some text =>
          have heq : step scene (.object span properties) = fun s =>
              if isPlausibleHere scene text then report scene span text s else (s, []) := by
            funext s; simp only [step, h]
          exact heq ▸ hreport _ span text
  | _ => exact .pass []

/-- An assignment is reported if it has a kind; only a location write
marks its target as well. -/
theorem EventHook.step_assignment (scene : Scene) (span : Span) (operator : String)
    (target value : Node) (s : State) :
    step scene (.assignment span operator target value) s =
      if s.isMarked .events span then (s, [])
      else
        (if assignmentKind? target = some .location then
            (s.mark .events span).mark .locationWrites target.span
          else s.mark .events span,
          ((assignmentKind? target).map
            (report scene (.assignment span operator target value))).toList) := by
  simp only [step]
  cases assignmentKind? target with
  | none => rfl
  | some kind => cases kind <;> rfl

theorem EventHook.staysIn (scene : Scene) (n : Node) :
    StaysIn .events (EventHook.step scene n) := by
  cases n with
  | call span callee arguments =>
      exact .cond (fun _ => rfl) (.pass []) (.marking .events span (.pass _))
  | assignment span operator target value =>
      have hwrite : StaysIn .events fun s =>
          (if assignmentKind? target = some .location then
              s.mark .locationWrites target.span
            else s,
            ((assignmentKind? target).map
              (report scene (.assignment span operator target value))).toList) := by
        split
        · exact .marking .locationWrites target.span (.pass _)
        · exact .pass _
      rw [funext (step_assignment scene span operator target value)]
      exact .cond (fun _ => rfl) (.pass []) (.marking .events span hwrite)
  | member span receiver name computed =>
      exact .cond (fun _ => rfl) (.marking .events span (.pass _)) (.pass [])
  | _ => exact .pass []

/-! ## The detector of addresses -/

namespace UrlUse

theorem supersede_only (s : State) (value : String) :
    (s.only .urls).supersede value = (s.supersede value).only .urls := by
  unfold State.supersede
  by_cases h : s.superseding.contains value = true
  · rw [if_pos h]
    exact if_pos h
  · rw [if_neg h]
    exact if_neg h

theorem bindInit_only (s : State) (name : String) (init : Node) (value : String) :
    bindInit (s.only .urls) name init value = (bindInit s name init value).only .urls := by
  simp only [bindInit]
  split
  · exact supersede_only (s.bind name value) (normalizeValue value)
  · rfl

/-- What is learned is of no concern to the other detectors. -/
theorem learn_only_of_ne {d : Detector} (hd : d ≠ .urls) (a : AnalysisSettings) (n : Node)
    (s : State) : (learn a n s).only d = s.only d := by
  have hm := learn_marks a n s
  cases d with
  | urls => exact absurd rfl hd
  | _ => simp only [State.only, hm]

theorem learn_only (a : AnalysisSettings) (n : Node) (s : State) :
    learn a n (s.only .urls) = (learn a n s).only .urls := by
  have hb : (s.only .urls).bindings = s.bindings := rfl
  cases hdecl : declaration? a n with
  | none => simp only [learn, hdecl]
  | some p =>
      cases hvalue : p.2.resolve s.bindings with
      | none => simp only [learn, hdecl, hb, hvalue]
      | some value => simp only [learn, hdecl, hb, hvalue, bindInit_only]

theorem report_staysIn (scene : Scene) (o : Offer) : StaysIn .urls (report scene o) := by
  cases h : judge? scene.settings (normalizeValue o.value) o.site with
  | none =>
      have heq : report scene o = fun s => (s, []) := by
        funext s; simp only [report, h, ite_self]
      exact heq ▸ .pass []
  | some c =>
      have heq : report scene o = fun s =>
          if s.isMarked .urls o.span then (s, []) else
            (s.mark .urls o.span,
              [{ scene.finding o.span (normalizeValue o.value) c.kind with
                details := c.details }]) := by
        funext s; simp only [report, h]
      exact heq ▸ .cond (fun _ => rfl) (.pass []) (.marking .urls o.span (.pass _))

theorem reportOption_staysIn (scene : Scene) (o : Option Offer) :
    StaysIn .urls (reportOption scene o) := by
  cases o with
  | none => exact .pass []
  | some o => exact report_staysIn scene o

theorem staysIn (scene : Scene) (n : Node) : StaysIn .urls (step scene n) where
  reads s := by
    rw [step_eq, step_eq, learn_only]
    exact (reportOption_staysIn scene _).reads _
  writes s e he := by
    rw [step_eq, (reportOption_staysIn scene _).writes _ e he]
    exact learn_only_of_ne he _ n s

end UrlUse

end ScriptScout
