import ScriptScout.Proofs.Memory

/-!
# What one look for queries does

`step_cases` says all that `GraphqlText.step` can do, as far as it
matters where a query is reported and what is remembered. A look may mark
a template first, its own or the one behind its tag, which leaves the
marks of reports alone. Then it reports nothing, or one query, under the
span of the node itself or of a literal that is a part of it, if the text
of the literal was decoded (`ReportsUnder`).

Of a tagged template the look is given in full (`step_tagged`). A
template that is marked is passed over (`step_template_of_marked`).
-/

namespace ScriptScout.GraphqlText

/-! ## Where a look reports -/

/-- The nodes under whose span a query can be reported. -/
def bearsText : Node → Bool
  | .literal .. | .template .. | .tagged .. | .object .. => true
  | _ => false

/-- The node under whose span a look reports what it finds. -/
inductive ReportsUnder : Node → Node → Prop
  | self {n : Node} (h : bearsText n = true) : ReportsUnder n n
  | decoded {span inner : Span} {callee : Node} {arguments : List Node} {text : String}
      {value : Literal} (h : decodedDocument? callee arguments = some (inner, text))
      (hmem : .literal inner value ∈ arguments) :
      ReportsUnder (.call span callee arguments) (.literal inner value)

theorem ReportsUnder.bearsText {n m : Node} (h : ReportsUnder n m) : bearsText m = true := by
  cases h with
  | self h => exact h
  | decoded => rfl

/-- It is the node itself or a part of it. -/
theorem ReportsUnder.self_or_child {n m : Node} (h : ReportsUnder n m) :
    m = n ∨ m ∈ n.children := by
  cases h with
  | self => exact Or.inl rfl
  | decoded _ hmem => exact Or.inr (List.mem_cons_of_mem _ hmem)

/-- A decoded document is the text of the first argument. -/
theorem exists_literal_of_decodedDocument? {callee : Node} {arguments : List Node} {span : Span}
    {text : String} (h : decodedDocument? callee arguments = some (span, text)) :
    ∃ value, .literal span value ∈ arguments := by
  simp only [decodedDocument?, Option.bind_eq_bind, Option.bind_eq_some_iff, Option.pure_def,
    Option.some.injEq, Prod.mk.injEq] at h
  obtain ⟨-, -, argument, hfirst, text, htext, -, -, -, -, rfl, -⟩ := h
  have hmem : argument ∈ arguments := List.mem_of_head? hfirst
  cases argument with
  | literal span value => exact ⟨value, hmem⟩
  | _ => cases htext

/-! ## Marks -/

theorem isMarked_templates_report (scene : Scene) (span y : Span) (value : String) (s : State) :
    (report scene span value s).1.isMarked .graphqlTemplates y =
      s.isMarked .graphqlTemplates y := by
  unfold report
  split
  · rfl
  · exact State.isMarked_mark_of_ne (by decide) s span y

theorem isMarked_graphql_report {scene : Scene} {span y : Span} (h : span ≠ y) {value : String}
    {s : State} : (report scene span value s).1.isMarked .graphql y = s.isMarked .graphql y := by
  have hne : (span == y) = false := beq_eq_false_iff_ne.mpr h
  unfold report
  split
  · rfl
  · rw [State.isMarked_mark_self, hne, Bool.false_or]

/-! ## All that a look does -/

/-- A state with the same marks of reports and at least the same marks
of templates. -/
inductive Remarks (s : State) : State → Prop
  | same : Remarks s s
  | template (span : Span) : Remarks s (s.mark .graphqlTemplates span)

theorem Remarks.isMarked_graphql {s t : State} (h : Remarks s t) (y : Span) :
    t.isMarked .graphql y = s.isMarked .graphql y := by
  cases h with
  | same => rfl
  | template span => exact State.isMarked_mark_of_ne (by decide) s span y

theorem Remarks.isMarked_templates {s t : State} (h : Remarks s t) {y : Span}
    (hy : s.isMarked .graphqlTemplates y = true) : t.isMarked .graphqlTemplates y = true := by
  cases h with
  | same => exact hy
  | template span => rw [State.isMarked_mark_self, hy, Bool.or_true]

/-- A look marks templates, and then reports nothing or one query. -/
theorem step_cases (scene : Scene) (n : Node) (s : State) :
    ∃ t, Remarks s t ∧ (step scene n s = (t, [])
      ∨ ∃ m value, ReportsUnder n m ∧ step scene n s = report scene m.span value t) := by
  cases n with
  | literal span value =>
      cases value with
      | string value =>
          simp only [step]
          split
          · exact ⟨s, .same, Or.inr ⟨.literal span (.string value), value, .self rfl, rfl⟩⟩
          · exact ⟨s, .same, Or.inl rfl⟩
      | _ => exact ⟨s, .same, Or.inl rfl⟩
  | template span quasis expressions =>
      simp only [step]
      split
      · exact ⟨_, .template span,
          Or.inr ⟨.template span quasis expressions, _, .self rfl, rfl⟩⟩
      · exact ⟨s, .same, Or.inl rfl⟩
  | tagged span tag template =>
      refine ⟨_, .template template.span, ?_⟩
      cases template with
      | template inner quasis expressions =>
          simp only [step]
          split
          · exact Or.inr ⟨.tagged span tag (.template inner quasis expressions), _, .self rfl, rfl⟩
          · exact Or.inl rfl
      | _ => exact Or.inl rfl
  | call span callee arguments =>
      simp only [step]
      split
      · next inner text hdecoded =>
          split
          · obtain ⟨value, hmem⟩ := exists_literal_of_decodedDocument? hdecoded
            exact ⟨s, .same, Or.inr ⟨.literal inner value, text, .decoded hdecoded hmem, rfl⟩⟩
          · exact ⟨s, .same, Or.inl rfl⟩
      · exact ⟨s, .same, Or.inl rfl⟩
  | object span properties =>
      simp only [step]
      split
      · next text _ =>
          split
          · exact ⟨s, .same, Or.inr ⟨.object span properties, text, .self rfl, rfl⟩⟩
          · exact ⟨s, .same, Or.inl rfl⟩
      · exact ⟨s, .same, Or.inl rfl⟩
  | _ => exact ⟨s, .same, Or.inl rfl⟩

/-- The look at a tagged template. -/
theorem step_tagged (scene : Scene) (span : Span) (tag : Node) (inner : Span)
    (quasis : List Quasi) (expressions : List Node) (s : State) :
    step scene (.tagged span tag (.template inner quasis expressions)) s =
      if (tagNames.contains (tagName scene tag) && isPlausibleHere scene (ownText quasis)) = true
      then report scene span (templateBody (scene.text inner)) (s.mark .graphqlTemplates inner)
      else (s.mark .graphqlTemplates inner, []) := rfl

theorem step_template_of_marked (scene : Scene) {span : Span} (quasis : List Quasi)
    (expressions : List Node) {s : State} (h : s.isMarked .graphqlTemplates span = true) :
    step scene (.template span quasis expressions) s = (s, []) := by
  simp only [step, h, Bool.not_true, Bool.false_and, Bool.false_eq_true, if_false]

end ScriptScout.GraphqlText
