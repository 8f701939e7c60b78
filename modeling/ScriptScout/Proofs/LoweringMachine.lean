import Mathlib.Logic.Relation
import ScriptScout.Proofs.LoweringRules

/-!
# The task machine keeps to the rules

Lowering is a loop over a stack of tasks and a list of finished nodes.
Here the loop is taken apart: `Step` is one round of it, and `runTasks`
is what the rounds lead to (`steps_runTasks`). Each round makes the
stack lighter, so there is no endless run (`wellFounded_step`).

What can go wrong on the way is a miscount. An assembly that finds too
few finished nodes, or a shape that cannot be built from those it
finds, gives up on a whole subtree without a word. `Balanced` counts
the finished nodes through all the tasks that are left, down to the one
node at the end. Every round keeps the balance (`Step.balanced`), so
the fallbacks are never taken (`Balanced.supplied`), and the one node
is that of the rules.
-/

namespace ScriptScout.Lowering

/-- What the machine has done and still has to do. -/
structure Work where
  /-- Last first. -/
  finished : List Node
  tasks : List Task

/-- All work ahead: one tree, with nothing finished. -/
def Work.start (root : GrammarTree) : Work := ⟨[], [.lower root 0]⟩

/-- One round of the machine. -/
inductive Step (source : String) : Work → Work → Prop
  | finish {t : GrammarTree} {depth : Nat} {node : Node} {finished : List Node}
      {tasks : List Task} (hmove : move source t depth = .finish node) :
      Step source ⟨finished, .lower t depth :: tasks⟩ ⟨node :: finished, tasks⟩
  | enter {t inner : GrammarTree} {depth : Nat} {finished : List Node} {tasks : List Task}
      (hmove : move source t depth = .enter inner) :
      Step source ⟨finished, .lower t depth :: tasks⟩ ⟨finished, .lower inner depth :: tasks⟩
  | expand {t : GrammarTree} {depth : Nat} {p : Plan} {finished : List Node} {tasks : List Task}
      (hmove : move source t depth = .expand p) :
      Step source ⟨finished, .lower t depth :: tasks⟩
        ⟨finished, p.parts.map (fun q => .lower q.1 q.2)
          ++ .assemble t p.shape p.parts.length :: tasks⟩
  | assemble {t : GrammarTree} {shape : Shape} {arity : Nat} {finished : List Node}
      {tasks : List Task} :
      Step source ⟨finished, .assemble t shape arity :: tasks⟩
        ⟨Lowering.assemble t shape (finished.take arity).reverse :: finished.drop arity, tasks⟩

/-- Any number of rounds. -/
abbrev Steps (source : String) : Work → Work → Prop := Relation.ReflTransGen (Step source)

variable {source : String} {w w' : Work}

/-! ## Where the rounds lead -/

/-- The machine goes on as long as there is something to do. -/
theorem exists_step (source : String) (finished : List Node) (task : Task) (tasks : List Task) :
    ∃ w, Step source ⟨finished, task :: tasks⟩ w := by
  cases task with
  | assemble t shape arity => exact ⟨_, .assemble⟩
  | lower t depth =>
      cases hmove : move source t depth with
      | finish node => exact ⟨_, .finish hmove⟩
      | enter inner => exact ⟨_, .enter hmove⟩
      | expand p => exact ⟨_, .expand hmove⟩

/-- A round is one unfolding of `runTasks`. -/
theorem Step.runTasks_eq (h : Step source w w') :
    runTasks source w.finished w.tasks = runTasks source w'.finished w'.tasks := by
  cases h with
  | finish hmove => exact runTasks_finish source _ _ hmove
  | enter hmove => exact runTasks_enter source _ _ hmove
  | expand hmove => exact runTasks_expand source _ _ hmove
  | assemble => rw [runTasks]

theorem Steps.runTasks_eq (h : Steps source w w') :
    runTasks source w.finished w.tasks = runTasks source w'.finished w'.tasks := by
  induction h with
  | refl => rfl
  | tail _ hstep ih => rw [ih, hstep.runTasks_eq]

/-- The weight of all tasks. -/
noncomputable def Work.weight (w : Work) : Nat := total (w.tasks.map Task.weight)

theorem Step.weight_lt (h : Step source w w') : w'.weight < w.weight := by
  cases h with
  | @finish t =>
      have := sizeOf_pos t
      simp only [Work.weight, List.map_cons, total_cons, Task.weight]
      omega
  | enter hmove =>
      have := move_enter_size hmove
      simp only [Work.weight, List.map_cons, total_cons, Task.weight]
      omega
  | @expand _ _ p _ _ hmove =>
      have hsize := move_expand_size hmove
      have htotal := total_weight_lower p.parts
      simp only [Plan.size] at hsize
      simp only [Work.weight, List.map_append, total_append, List.map_cons, total_cons, htotal,
        Task.weight]
      omega
  | assemble =>
      simp only [Work.weight, List.map_cons, total_cons, Task.weight]
      omega

/-- There is no endless run. -/
theorem wellFounded_step (source : String) : WellFounded fun w' w => Step source w w' :=
  Subrelation.wf Step.weight_lt (measure Work.weight).wf

/-- All work ends in what `runTasks` computes. -/
theorem steps_runTasks (source : String) (w : Work) :
    Steps source w ⟨runTasks source w.finished w.tasks, []⟩ := by
  induction w using (wellFounded_step source).induction with
  | _ w ih =>
      obtain ⟨finished, tasks⟩ := w
      cases tasks with
      | nil => rw [runTasks]
      | cons task tasks =>
          obtain ⟨w', hstep⟩ := exists_step source finished task tasks
          rw [hstep.runTasks_eq]
          exact .head hstep (ih w' hstep)

/-! ## The count of finished nodes -/

/-- `Balanced source k tasks`: with `k` finished nodes, the tasks always
find as many as they need and leave a single node behind. -/
inductive Balanced (source : String) : Nat → List Task → Prop
  | done : Balanced source 1 []
  | lower {k : Nat} {t : GrammarTree} {depth : Nat} {tasks : List Task}
      (h : Balanced source (k + 1) tasks) : Balanced source k (.lower t depth :: tasks)
  | assemble {k : Nat} {t : GrammarTree} {depth : Nat} {tasks : List Task}
      (h : Balanced source (k + 1) tasks) :
      Balanced source (k + (plan source t depth).parts.length)
        (.assemble t (plan source t depth).shape (plan source t depth).parts.length :: tasks)

theorem Balanced.lower_all {tasks : List Task} (parts : List (GrammarTree × Nat)) {k : Nat}
    (h : Balanced source (k + parts.length) tasks) :
    Balanced source k (parts.map (fun q => .lower q.1 q.2) ++ tasks) := by
  induction parts generalizing k with
  | nil => exact h
  | cons q parts ih =>
      refine .lower (ih ?_)
      rwa [Nat.add_right_comm]

theorem move_expand_eq {t : GrammarTree} {depth : Nat} {p : Plan}
    (h : move source t depth = .expand p) : p = plan source t depth := by
  unfold move at h
  split at h
  · cases h
  · split at h
    · split at h <;> cases h
    · split at h <;> cases h
      rfl

theorem Balanced.of_lower {k : Nat} {t : GrammarTree} {depth : Nat} {tasks : List Task}
    (h : Balanced source k (.lower t depth :: tasks)) : Balanced source (k + 1) tasks := by
  cases h
  assumption

theorem Balanced.of_assemble {k arity : Nat} {t : GrammarTree} {shape : Shape} {tasks : List Task}
    (h : Balanced source k (.assemble t shape arity :: tasks)) :
    ∃ rest depth, k = rest + arity ∧ shape = (plan source t depth).shape
      ∧ arity = (plan source t depth).parts.length ∧ Balanced source (rest + 1) tasks := by
  cases h with
  | @assemble rest _ depth _ h => exact ⟨rest, depth, rfl, rfl, rfl, h⟩

/-- A round keeps the balance. -/
theorem Step.balanced (h : Step source w w') (hw : Balanced source w.finished.length w.tasks) :
    Balanced source w'.finished.length w'.tasks := by
  cases h with
  | finish => exact hw.of_lower
  | enter => exact .lower hw.of_lower
  | expand hmove =>
      obtain rfl := move_expand_eq hmove
      exact .lower_all _ (.assemble hw.of_lower)
  | assemble =>
      obtain ⟨rest, depth, hlength, -, -, htasks⟩ := hw.of_assemble
      rw [List.length_cons, List.length_drop, hlength, Nat.add_sub_cancel]
      exact htasks

theorem Steps.balanced (h : Steps source w w') (hw : Balanced source w.finished.length w.tasks) :
    Balanced source w'.finished.length w'.tasks := by
  induction h with
  | refl => exact hw
  | tail _ hstep ih => exact hstep.balanced ih

theorem balanced_start (source : String) (root : GrammarTree) :
    Balanced source (Work.start root).finished.length (Work.start root).tasks :=
  .lower .done

/-! ## No fallback -/

/-- An assembly that is due finds as many finished nodes as it takes,
and a shape can be built from them, with none missing and none left
over. -/
def Work.Supplied (w : Work) : Prop :=
  ∀ t shape arity tasks, w.tasks = .assemble t shape arity :: tasks →
    arity ≤ w.finished.length ∧ (shape ≠ .other → ∃ n,
      Builds t.span shape (w.finished.take arity).reverse n
        ∧ shape.build? t.span (w.finished.take arity).reverse = some n)

theorem Balanced.supplied (h : Balanced source w.finished.length w.tasks) : w.Supplied := by
  intro t shape arity tasks htasks
  rw [htasks] at h
  obtain ⟨rest, depth, hlength, rfl, rfl, -⟩ := h.of_assemble
  refine ⟨by omega, fun hshape => ?_⟩
  have hcount : (w.finished.take (plan source t depth).parts.length).reverse.length =
      (plan source t depth).parts.length := by
    rw [List.length_reverse, List.length_take]
    omega
  obtain ⟨n, hn⟩ := (construct_iff.mpr ⟨rfl, hshape⟩).exists_builds hcount
  exact ⟨n, hn, hn.build?_eq⟩

/-- The machine ends, with the one node that the rules have for the
tree, and it gets there without a fallback. -/
theorem machine_follows_rules (source : String) (root : GrammarTree) :
    ∃ node, (∀ n, Lowers source root 0 n ↔ n = node)
      ∧ Acc (fun w' w => Step source w w') (.start root)
      ∧ (∀ w, Steps source (.start root) w → Steps source w ⟨[node], []⟩ ∧ w.Supplied)
      ∧ runTasks source [] [.lower root 0] = [node]
      ∧ lower source root = node := by
  have hrun : runTasks source [] [.lower root 0] = [lowerAt source root 0] := by
    rw [runTasks_lower, runTasks]
  refine ⟨lowerAt source root 0, fun n => lowers_iff, (wellFounded_step source).apply _,
    fun w hw => ⟨?_, (hw.balanced (balanced_start source root)).supplied⟩, hrun,
    lower_eq_lowerAt source root⟩
  have hend := steps_runTasks source w
  rwa [← hw.runTasks_eq, Work.start, hrun] at hend

/-- The call in the text `f((a), /* c */ b)`. -/
def commentedCall : GrammarTree :=
  .node { kind := "call_expression", span := ⟨0, 17⟩ } [
    .node { kind := "identifier", span := ⟨0, 1⟩, role := some .function } [],
    .node { kind := "arguments", span := ⟨1, 17⟩, role := some .arguments } [
      .node { kind := "parenthesized_expression", span := ⟨2, 5⟩ }
        [.node { kind := "identifier", span := ⟨3, 4⟩ } []],
      .node { kind := "comment", span := ⟨7, 14⟩ } [],
      .node { kind := "identifier", span := ⟨15, 16⟩ } []]]

/-- The comment leaves no argument behind, and neither do the
parentheses. -/
theorem machine_follows_rules_call :
    lower "f((a), /* c */ b)" commentedCall = .call ⟨0, 17⟩ (.identifier ⟨0, 1⟩ "f")
      [.identifier ⟨3, 4⟩ "a", .identifier ⟨15, 16⟩ "b"] := by
  obtain ⟨node, hrules, -, -, -, hlower⟩ :=
    machine_follows_rules "f((a), /* c */ b)" commentedCall
  rw [hlower]
  refine ((hrules _).mp ?_).symm
  have hcall : Construct "f((a), /* c */ b)" commentedCall 0 _ := .call rfl rfl (by
    rintro args ⟨⟩
    decide)
  refine .construct (by decide) hcall (fun q => .identifier
    (if q.1.kind = "parenthesized_expression" then ⟨3, 4⟩ else q.1.span)
    (if q.1.kind = "parenthesized_expression" then "a" else text "f((a), /* c */ b)" q.1))
    (fun q hq => ?_) .call
  rcases List.mem_cons.mp hq with rfl | hq
  · exact .leaf (by decide) rfl
  rcases List.mem_cons.mp hq with rfl | hq
  · exact .parentheses (by decide) rfl rfl (.leaf (by decide) rfl)
  · obtain rfl := List.mem_singleton.mp hq
    exact .leaf (by decide) rfl

end ScriptScout.Lowering
