import Mathlib.Data.List.Basic
import ScriptScout.Proofs.LoweredTree

/-!
# The rules of lowering

What a grammar tree is lowered to, said by rules that know no tasks, no
plans and no fallbacks. `Construct` lists the trees with a shape of
their own: of which kind they are, which roles have to be filled, and
which of their parts are lowered at which depth. `Builds` says what a
shape makes of its lowered parts, and it is strict: there is a node
only over exactly as many parts as the shape stands for. `Lowers` puts
the two together with the depth cap, parentheses, leaves, and the trees
that are no construct.

`construct_iff` ties the plans to the constructs and `Construct.exists_builds` says
that a construct always brings the parts that its shape asks for, so
that assembling never falls back on a bare node (`Builds.assemble_eq`).
By `lowers_iff` the rules have one node for every tree at every depth,
the one of `lowerAt`.
-/

namespace ScriptScout.Lowering

/-! ## Constructs -/

/-- The constructs over two parts: their kind, the roles of the parts,
and their shape. -/
def pairForms (source : String) (t : GrammarTree) : List (String × Role × Role × Shape) := [
  ("binary_expression", .left, .right, .binary (operatorText source t)),
  ("assignment_expression", .left, .right, .assignment "="),
  ("augmented_assignment_expression", .left, .right, .assignment (operatorText source t)),
  ("member_expression", .object, .property, .member false),
  ("subscript_expression", .object, .index, .member true),
  ("pair", .key, .value, .pair)]

/-- The arguments of a call; there may be no place for them. -/
def argumentsOf (t : GrammarTree) : List GrammarTree :=
  (t.inRole? .arguments).elim [] GrammarTree.namedParts

/-- The trees at a depth that have a shape of their own, with the parts
that are lowered for it. -/
inductive Construct (source : String) (t : GrammarTree) (depth : Nat) : Plan → Prop
  | pair {r s : Role} {shape : Shape} {a b : GrammarTree}
      (hform : (t.kind, r, s, shape) ∈ pairForms source t) (ha : t.inRole? r = some a)
      (hb : t.inRole? s = some b) : Construct source t depth ⟨shape, atDepth (depth + 1) [a, b]⟩
  | call {callee : GrammarTree} (hkind : t.kind = "call_expression")
      (hcallee : t.inRole? .function = some callee)
      (hplain : ∀ args, t.inRole? .arguments = some args → args.kind ≠ "template_string") :
      Construct source t depth ⟨.call, atDepth (depth + 1) (callee :: argumentsOf t)⟩
  | tagged {tag template : GrammarTree} (hkind : t.kind = "call_expression")
      (htag : t.inRole? .function = some tag) (htemplate : t.inRole? .arguments = some template)
      (hquoted : template.kind = "template_string") :
      Construct source t depth ⟨.tagged template.span (templateQuasis source template),
        (tag, depth + 1) :: atDepth (depth + 2) (templateExpressions template)⟩
  | construct {callee : GrammarTree} (hkind : t.kind = "new_expression")
      (hcallee : t.inRole? .constructor = some callee) :
      Construct source t depth ⟨.construct, atDepth (depth + 1) (callee :: argumentsOf t)⟩
  | declarator {id : GrammarTree} (hkind : t.kind = "variable_declarator")
      (hid : t.inRole? .name = some id) :
      Construct source t depth
        ⟨.declarator, atDepth (depth + 1) (id :: (t.inRole? .value).toList)⟩
  | template (hkind : t.kind = "template_string") :
      Construct source t depth
        ⟨.template (templateQuasis source t), atDepth (depth + 1) (templateExpressions t)⟩
  | object (hkind : t.kind = "object") :
      Construct source t depth ⟨.object (t.namedParts.map isShorthand),
        t.namedParts.map fun p => (p, if isShorthand p then depth + 2 else depth + 1)⟩
  | array (hkind : t.kind = "array") :
      Construct source t depth ⟨.array, atDepth (depth + 1) t.namedParts⟩
  | jsxAttribute {name : GrammarTree} {rest : List GrammarTree} (hkind : t.kind = "jsx_attribute")
      (hparts : t.namedParts = name :: rest) :
      Construct source t depth
        ⟨.jsxAttribute (text source name), atDepth (depth + 1) rest.head?.toList⟩

/-! ## Shapes over their parts -/

/-- The node of a shape over lowered parts of which none is missing and
none is left over. -/
inductive Builds (span : Span) : Shape → List Node → Node → Prop
  | binary {operator : String} {left right : Node} :
      Builds span (.binary operator) [left, right] (.binary span operator left right)
  | assignment {operator : String} {left right : Node} :
      Builds span (.assignment operator) [left, right] (.assignment span operator left right)
  | member {computed : Bool} {receiver name : Node} :
      Builds span (.member computed) [receiver, name] (.member span receiver name computed)
  | pair {key value : Node} : Builds span .pair [key, value] (.property span key value false)
  | declarator {id : Node} {init : Option Node} :
      Builds span .declarator (id :: init.toList) (.declarator span id init)
  | jsxAttribute {name : String} {value : Option Node} :
      Builds span (.jsxAttribute name) value.toList (.jsxAttribute span name value)
  | call {callee : Node} {arguments : List Node} :
      Builds span .call (callee :: arguments) (.call span callee arguments)
  | construct {callee : Node} {arguments : List Node} :
      Builds span .construct (callee :: arguments) (.construct span callee arguments)
  | tagged {inner : Span} {quasis : List Quasi} {tag : Node} {expressions : List Node} :
      Builds span (.tagged inner quasis) (tag :: expressions)
        (.tagged span tag (.template inner quasis expressions))
  | template {quasis : List Quasi} {expressions : List Node} :
      Builds span (.template quasis) expressions (.template span quasis expressions)
  | array {elements : List Node} : Builds span .array elements (.array span elements)
  | object {members : List (Node × Bool)} :
      Builds span (.object (members.map Prod.snd)) (members.map Prod.fst)
        (.object span (members.map fun m => property m.1 m.2))

/-! ## Plans are for constructs -/

variable {source : String} {t : GrammarTree} {depth : Nat}

/-- What the constructs over two parts have in common. -/
theorem pairForms_spec {r s : Role} {shape : Shape}
    (h : (t.kind, r, s, shape) ∈ pairForms source t) :
    (∀ depth, plan source t depth = planPair t depth r s shape) ∧ shape ≠ .other
      ∧ t.kind ≠ "parenthesized_expression" ∧ leaf? source t = none
      ∧ ∀ span a b, ∃ n, Builds span shape [a, b] n := by
  simp only [pairForms, List.mem_cons, Prod.mk.injEq, List.not_mem_nil, or_false] at h
  rcases h with ⟨hkind, rfl, rfl, rfl⟩ | ⟨hkind, rfl, rfl, rfl⟩ | ⟨hkind, rfl, rfl, rfl⟩
    | ⟨hkind, rfl, rfl, rfl⟩ | ⟨hkind, rfl, rfl, rfl⟩ | ⟨hkind, rfl, rfl, rfl⟩ <;>
  refine ⟨?_, Shape.noConfusion, ?_, ?_, fun _ _ _ => ⟨_, by constructor⟩⟩ <;>
  simp [plan, leaf?, hkind]

theorem Construct.plan_eq {p : Plan} (h : Construct source t depth p) :
    plan source t depth = p := by
  cases h with
  | pair hform ha hb => simp [(pairForms_spec hform).1, planPair, ha, hb]
  | call hkind hcallee hplain =>
      cases hargs : t.inRole? .arguments with
      | none => simp [plan, hkind, planCall, hcallee, hargs, argumentsOf, atDepth]
      | some args =>
          simp [plan, hkind, planCall, hcallee, hargs, argumentsOf, atDepth, hplain args hargs]
  | tagged hkind htag htemplate hquoted =>
      simp [plan, hkind, planCall, htag, htemplate, hquoted]
  | construct hkind hcallee =>
      cases hargs : t.inRole? .arguments <;>
        simp [plan, hkind, planConstruct, hcallee, hargs, argumentsOf, atDepth]
  | declarator hkind hid =>
      cases hvalue : t.inRole? .value <;> simp [plan, hkind, planDeclarator, hid, hvalue]
  | template hkind => simp [plan, hkind]
  | object hkind => simp [plan, hkind, planObject]
  | array hkind => simp [plan, hkind]
  | @jsxAttribute name rest hkind hparts =>
      cases rest <;> simp [plan, hkind, planAttribute, hparts, atDepth]

theorem Construct.shape_ne {p : Plan} (h : Construct source t depth p) : p.shape ≠ .other := by
  cases h with
  | pair hform => exact (pairForms_spec hform).2.1
  | _ => exact Shape.noConfusion

/-- If there is a construct, the plan is for it. -/
theorem Construct.of_plan {p : Plan} (h : Construct source t depth p) :
    Construct source t depth (plan source t depth) := by
  rwa [h.plan_eq]

theorem planPair_cases {r s : Role} {shape : Shape}
    (hform : (t.kind, r, s, shape) ∈ pairForms source t) :
    Construct source t depth (planPair t depth r s shape)
      ∨ planPair t depth r s shape = planOther t depth := by
  unfold planPair
  split
  · next ha hb => exact .inl (.pair hform ha hb)
  · exact .inr rfl

theorem planCall_cases (hkind : t.kind = "call_expression") :
    Construct source t depth (planCall source t depth)
      ∨ planCall source t depth = planOther t depth := by
  have hplan : plan source t depth = planCall source t depth := by simp [plan, hkind]
  cases hcallee : t.inRole? .function with
  | none => exact .inr (by simp [planCall, hcallee])
  | some callee =>
      rw [← hplan]
      by_cases htemplate : ∃ u, t.inRole? .arguments = some u ∧ u.kind = "template_string"
      · obtain ⟨template, hargs, hquoted⟩ := htemplate
        exact .inl (Construct.tagged hkind hcallee hargs hquoted).of_plan
      · have hplain (args : GrammarTree) (hargs : t.inRole? .arguments = some args) :
            args.kind ≠ "template_string" := fun h => htemplate ⟨args, hargs, h⟩
        exact .inl (Construct.call hkind hcallee hplain).of_plan

theorem planConstruct_cases (hkind : t.kind = "new_expression") :
    Construct source t depth (planConstruct t depth)
      ∨ planConstruct t depth = planOther t depth := by
  have hplan : plan source t depth = planConstruct t depth := by simp [plan, hkind]
  cases hcallee : t.inRole? .constructor with
  | none => exact .inr (by simp [planConstruct, hcallee])
  | some callee =>
      rw [← hplan]
      exact .inl (Construct.construct hkind hcallee).of_plan

theorem planDeclarator_cases (hkind : t.kind = "variable_declarator") :
    Construct source t depth (planDeclarator t depth)
      ∨ planDeclarator t depth = planOther t depth := by
  have hplan : plan source t depth = planDeclarator t depth := by simp [plan, hkind]
  cases hid : t.inRole? .name with
  | none => exact .inr (by simp [planDeclarator, hid])
  | some id =>
      rw [← hplan]
      exact .inl (Construct.declarator hkind hid).of_plan

theorem planAttribute_cases (hkind : t.kind = "jsx_attribute") :
    Construct source t depth (planAttribute source t depth)
      ∨ planAttribute source t depth = planOther t depth := by
  have hplan : plan source t depth = planAttribute source t depth := by simp [plan, hkind]
  cases hparts : t.namedParts with
  | nil => exact .inr (by simp [planAttribute, hparts])
  | cons name rest =>
      rw [← hplan]
      exact .inl (Construct.jsxAttribute hkind hparts).of_plan

/-- A plan is for a construct, or it takes all named parts. -/
theorem plan_cases (source : String) (t : GrammarTree) (depth : Nat) :
    Construct source t depth (plan source t depth) ∨ plan source t depth = planOther t depth := by
  unfold plan
  split
  case h_1 hkind => exact .inl (.template hkind)
  case h_5 hkind => exact planCall_cases hkind
  case h_6 hkind => exact planConstruct_cases hkind
  case h_9 hkind => exact planDeclarator_cases hkind
  case h_10 hkind => exact .inl (.object hkind)
  case h_12 hkind => exact .inl (.array hkind)
  case h_13 hkind => exact planAttribute_cases hkind
  case h_14 => exact .inr rfl
  all_goals
    next hkind => exact planPair_cases (by simp [pairForms, hkind])

theorem construct_iff {p : Plan} :
    Construct source t depth p ↔ plan source t depth = p ∧ p.shape ≠ .other := by
  refine ⟨fun h => ⟨h.plan_eq, h.shape_ne⟩, ?_⟩
  rintro ⟨rfl, hshape⟩
  rcases plan_cases source t depth with h | h
  · exact h
  · rw [h] at hshape
    exact absurd rfl hshape

theorem Builds.build?_eq {span : Span} {shape : Shape} {children : List Node} {n : Node}
    (h : Builds span shape children n) : shape.build? span children = some n := by
  cases h with
  | @declarator _ init => cases init <;> rfl
  | @jsxAttribute _ value => cases value <;> rfl
  | object =>
      rw [Shape.build?, List.zipWith_map, List.zipWith_self]
  | _ => rfl

theorem Builds.assemble_eq {shape : Shape} {children : List Node} {n : Node}
    (h : Builds t.span shape children n) : assemble t shape children = n := by
  have hbuild := h.build?_eq
  cases h <;> simp only [assemble, hbuild, Option.getD_some]

/-- A list as long as that of an optional part is that of one. -/
theorem exists_toList_of_length {α β : Type} {xs : List α} {o : Option β}
    (h : xs.length = o.toList.length) : ∃ x : Option α, xs = x.toList := by
  cases o with
  | none => exact ⟨none, List.eq_nil_of_length_eq_zero h⟩
  | some b =>
      obtain ⟨x, rfl⟩ := List.length_eq_one_iff.mp h
      exact ⟨some x, rfl⟩

/-- A construct has the parts that its shape stands for. -/
theorem Construct.exists_builds {p : Plan} (h : Construct source t depth p) {children : List Node}
    (hlength : children.length = p.parts.length) : ∃ n, Builds t.span p.shape children n := by
  cases h with
  | pair hform =>
      obtain ⟨x, y, rfl⟩ := List.length_eq_two.mp hlength
      exact (pairForms_spec hform).2.2.2.2 t.span x y
  | call =>
      obtain ⟨callee, arguments, rfl⟩ := List.exists_cons_of_length_eq_add_one hlength
      exact ⟨_, .call⟩
  | tagged =>
      obtain ⟨tag, expressions, rfl⟩ := List.exists_cons_of_length_eq_add_one hlength
      exact ⟨_, .tagged⟩
  | construct =>
      obtain ⟨callee, arguments, rfl⟩ := List.exists_cons_of_length_eq_add_one hlength
      exact ⟨_, .construct⟩
  | declarator =>
      obtain ⟨id, rest, rfl⟩ := List.exists_cons_of_length_eq_add_one hlength
      rw [atDepth, List.length_map, List.length_cons, List.length_cons,
        Nat.add_right_cancel_iff] at hlength
      obtain ⟨init, rfl⟩ := exists_toList_of_length hlength
      exact ⟨_, .declarator⟩
  | template => exact ⟨_, .template⟩
  | object =>
      rw [List.length_map] at hlength
      have hflags : children.length = (t.namedParts.map isShorthand).length := by
        rw [hlength, List.length_map]
      have hbuilds : Builds t.span _ _ (.object t.span
          ((children.zip (t.namedParts.map isShorthand)).map fun m => property m.1 m.2)) := .object
      rw [List.map_fst_zip (Nat.le_of_eq hflags), List.map_snd_zip (Nat.le_of_eq hflags.symm)]
        at hbuilds
      exact ⟨_, hbuilds⟩
  | array => exact ⟨_, .array⟩
  | jsxAttribute =>
      rw [atDepth, List.length_map] at hlength
      obtain ⟨value, rfl⟩ := exists_toList_of_length hlength
      exact ⟨_, .jsxAttribute⟩

/-! ## The rules -/

/-- `Lowers source t depth n`: at that depth the tree is lowered to the
node. In the last two rules `f` gives each part its node. -/
inductive Lowers (source : String) : GrammarTree → Nat → Node → Prop
  | deep {t : GrammarTree} {depth : Nat} (hdepth : maxDepth < depth) :
      Lowers source t depth (.other t.span t.kind [])
  | parentheses {t inner : GrammarTree} {depth : Nat} {n : Node} (hdepth : depth ≤ maxDepth)
      (hkind : t.kind = "parenthesized_expression") (hinner : t.namedParts.head? = some inner)
      (hn : Lowers source inner depth n) : Lowers source t depth n
  | emptyParentheses {t : GrammarTree} {depth : Nat} (hdepth : depth ≤ maxDepth)
      (hkind : t.kind = "parenthesized_expression") (hempty : t.namedParts = []) :
      Lowers source t depth (.other t.span t.kind [])
  | leaf {t : GrammarTree} {depth : Nat} {n : Node} (hdepth : depth ≤ maxDepth)
      (hleaf : leaf? source t = some n) : Lowers source t depth n
  | construct {t : GrammarTree} {depth : Nat} {n : Node} {p : Plan} (hdepth : depth ≤ maxDepth)
      (hp : Construct source t depth p) (f : GrammarTree × Nat → Node)
      (hparts : ∀ q ∈ p.parts, Lowers source q.1 q.2 (f q))
      (hn : Builds t.span p.shape (p.parts.map f) n) : Lowers source t depth n
  | other {t : GrammarTree} {depth : Nat} (hdepth : depth ≤ maxDepth)
      (hkind : t.kind ≠ "parenthesized_expression") (hleaf : leaf? source t = none)
      (hnone : ∀ p, ¬ Construct source t depth p) (f : GrammarTree → Node)
      (hparts : ∀ u ∈ t.namedParts, Lowers source u (depth + 1) (f u)) :
      Lowers source t depth (.other t.span t.kind (t.namedParts.map f))

/-! ### The moves behind the rules -/

theorem leaf?_parentheses (hkind : t.kind = "parenthesized_expression") :
    leaf? source t = none := by
  simp [leaf?, hkind]

theorem Construct.interior {p : Plan} (h : Construct source t depth p) :
    t.kind ≠ "parenthesized_expression" ∧ leaf? source t = none := by
  cases h with
  | pair hform =>
      obtain ⟨-, -, hkind, hleaf, -⟩ := pairForms_spec hform
      exact ⟨hkind, hleaf⟩
  | call hkind | tagged hkind | construct hkind | declarator hkind | template hkind
  | object hkind | array hkind | jsxAttribute hkind => simp [leaf?, hkind]

theorem move_parentheses {inner : GrammarTree} (hdepth : depth ≤ maxDepth)
    (hkind : t.kind = "parenthesized_expression") (hinner : t.namedParts.head? = some inner) :
    move source t depth = .enter inner := by
  obtain ⟨rest, hparts⟩ := List.head?_eq_some_iff.mp hinner
  simp [move, Nat.not_lt.mpr hdepth, hkind, hparts]

theorem move_emptyParentheses (hdepth : depth ≤ maxDepth)
    (hkind : t.kind = "parenthesized_expression") (hempty : t.namedParts = []) :
    move source t depth = .finish (other t []) := by
  simp [move, Nat.not_lt.mpr hdepth, hkind, hempty]

theorem move_leaf {n : Node} (hdepth : depth ≤ maxDepth) (hleaf : leaf? source t = some n) :
    move source t depth = .finish n := by
  have hkind : t.kind ≠ "parenthesized_expression" := fun hkind => by
    rw [leaf?_parentheses hkind] at hleaf
    cases hleaf
  simp [move, Nat.not_lt.mpr hdepth, hkind, hleaf]

theorem move_interior (hdepth : depth ≤ maxDepth) (hkind : t.kind ≠ "parenthesized_expression")
    (hleaf : leaf? source t = none) : move source t depth = .expand (plan source t depth) := by
  simp [move, Nat.not_lt.mpr hdepth, hkind, hleaf]

/-! ### One node for every tree -/

theorem Lowers.eq_lowerAt {n : Node} (h : Lowers source t depth n) :
    n = lowerAt source t depth := by
  induction h with
  | deep hdepth => rw [lowerAt_finish (move_of_deep hdepth), Lowering.other]
  | parentheses hdepth hkind hinner _ ih =>
      rw [ih, lowerAt_enter (move_parentheses hdepth hkind hinner)]
  | emptyParentheses hdepth hkind hempty =>
      rw [lowerAt_finish (move_emptyParentheses hdepth hkind hempty), Lowering.other]
  | leaf hdepth hleaf => rw [lowerAt_finish (move_leaf hdepth hleaf)]
  | construct hdepth hp f _ hn ih =>
      obtain ⟨hkind, hleaf⟩ := hp.interior
      rw [lowerAt_expand (move_interior hdepth hkind hleaf), hp.plan_eq, ← hn.assemble_eq,
        List.map_congr_left ih]
  | @other t depth hdepth hkind hleaf hnone f _ ih =>
      have hplan : plan source t depth = planOther t depth :=
        (plan_cases source t depth).resolve_left (hnone _)
      rw [lowerAt_expand (move_interior hdepth hkind hleaf), hplan, planOther, lowerAt_atDepth,
        List.map_congr_left ih]
      rfl

theorem lowers_lowerAt (source : String) (t : GrammarTree) (depth : Nat) :
    Lowers source t depth (lowerAt source t depth) := by
  by_cases hdeep : maxDepth < depth
  · rw [lowerAt_finish (move_of_deep hdeep)]
    exact .deep hdeep
  have hdepth : depth ≤ maxDepth := Nat.le_of_not_lt hdeep
  by_cases hkind : t.kind = "parenthesized_expression"
  · cases hparts : t.namedParts with
    | nil =>
        rw [lowerAt_finish (move_emptyParentheses hdepth hkind hparts)]
        exact .emptyParentheses hdepth hkind hparts
    | cons inner rest =>
        have hinner : t.namedParts.head? = some inner := by rw [hparts, List.head?_cons]
        have hmove : move source t depth = .enter inner := move_parentheses hdepth hkind hinner
        have := move_enter_size hmove
        rw [lowerAt_enter hmove]
        exact .parentheses hdepth hkind hinner (lowers_lowerAt source inner depth)
  cases hleaf : leaf? source t with
  | some node =>
      rw [lowerAt_finish (move_leaf hdepth hleaf)]
      exact .leaf hdepth hleaf
  | none =>
      have hmove := move_interior hdepth hkind hleaf
      have hparts : ∀ q ∈ (plan source t depth).parts,
          Lowers source q.1 q.2 (lowerAt source q.1 q.2) := fun q hq =>
        have := Nat.lt_of_le_of_lt (sizeOf_of_mem_parts hq) (plan_size source t depth)
        lowers_lowerAt source q.1 q.2
      rw [lowerAt_expand hmove]
      rcases plan_cases source t depth with hconstruct | hother
      · obtain ⟨n, hn⟩ := hconstruct.exists_builds (List.length_map fun q => lowerAt source q.1 q.2)
        rw [hn.assemble_eq]
        exact .construct hdepth hconstruct _ hparts hn
      · rw [hother] at hparts ⊢
        rw [planOther, lowerAt_atDepth]
        refine .other hdepth hkind hleaf (fun p hp => ?_) _ fun u hu => ?_
        · obtain ⟨rfl, hshape⟩ := construct_iff.mp hp
          exact hshape (congrArg Plan.shape hother)
        · exact hparts (u, depth + 1) (List.mem_map_of_mem hu)
termination_by sizeOf t

/-- By the rules a tree has one node at each depth. -/
theorem lowers_iff {n : Node} : Lowers source t depth n ↔ n = lowerAt source t depth :=
  ⟨Lowers.eq_lowerAt, fun h => h ▸ lowers_lowerAt source t depth⟩

end ScriptScout.Lowering
