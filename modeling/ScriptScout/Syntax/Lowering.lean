import ScriptScout.Grammar.Tree
import ScriptScout.Syntax.LiteralValue
import ScriptScout.Syntax.Node

/-!
# From grammar trees to analysis trees

Lowering keeps the shapes that the detectors look at and turns every
other construct into an `other` node. Comments are dropped, parentheses
are seen through, and strings have their values.

The work is done by a machine over a stack of tasks (`runTasks`), so
that the depth of a tree costs no recursion: an interior node is
planned (`plan`), its parts are lowered, and it is assembled from what
they gave. Nodes deeper than `maxDepth` lose their parts.
-/

namespace ScriptScout.Lowering

/-- Nodes below this depth are kept without their parts. -/
def maxDepth : Nat := 512

def text (source : String) (t : GrammarTree) : String :=
  t.span.text source

def other (t : GrammarTree) (children : List Node) : Node :=
  .other t.span t.kind children

/-! ## Leaves -/

/-- The value of a string literal: its pieces with the escape
sequences decoded, or what stands between the quotes. -/
def cook (source : String) (t : GrammarTree) : String :=
  match t.parts.filter (·.label.named) with
  | [] => String.ofList ((text source t).toList.drop 1).dropLast
  | pieces =>
      String.join (pieces.map fun p =>
        if p.kind == "escape_sequence" then
          String.ofList (unescape (text source p).toList)
        else text source p)

/-- The node of a construct without parts. -/
def leaf? (source : String) (t : GrammarTree) : Option Node :=
  match t.kind with
  | "identifier" | "property_identifier" | "shorthand_property_identifier"
  | "shorthand_property_identifier_pattern" | "private_property_identifier"
  | "statement_identifier" | "undefined" =>
      some (.identifier t.span (text source t))
  | "string" => some (.literal t.span (.string (cook source t)))
  | "number" => some (.literal t.span (.number (numberLiteral (text source t))))
  | "true" => some (.literal t.span (.boolean true))
  | "false" => some (.literal t.span (.boolean false))
  | "null" => some (.literal t.span .null)
  | "regex" => some (.literal t.span (.regex (text source t)))
  | _ => none

/-! ## Templates -/

/-- A chunk of a template between two offsets. -/
def quasi (source : String) (start stop : Nat) : Quasi :=
  let span : Span := ⟨start, max stop start⟩
  ⟨span, span.text source⟩

/-- The chunks between the substitutions of a template, from `start`
to `stop`. -/
def quasis (source : String) (start stop : Nat) : List GrammarTree → List Quasi
  | [] => [quasi source start stop]
  | s :: rest => quasi source start s.span.start :: quasis source s.span.stop stop rest

def substitutions (t : GrammarTree) : List GrammarTree :=
  t.namedParts.filter (·.kind == "template_substitution")

/-- The chunks of a template. -/
def templateQuasis (source : String) (t : GrammarTree) : List Quasi :=
  let start := min (t.span.start + 1) t.span.stop
  let stop := max (t.span.stop - 1) start
  quasis source start stop (substitutions t)

/-- The expressions in the substitutions of a template. -/
def templateExpressions (t : GrammarTree) : List GrammarTree :=
  (substitutions t).filterMap (·.namedParts.head?)

/-! ## Plans -/

/-- How an interior node is put together from its lowered parts. -/
inductive Shape where
  | binary (operator : String)
  | assignment (operator : String)
  | call
  | construct
  /-- Span and chunks of the template behind a tag. -/
  | tagged (span : Span) (quasis : List Quasi)
  | template (quasis : List Quasi)
  | member (computed : Bool)
  | declarator
  /-- Which of the properties are only a name. -/
  | object (shorthand : List Bool)
  | pair
  | array
  | jsxAttribute (name : String)
  | other
  deriving Repr, Inhabited

/-- The parts to lower for a node, each with its depth, and how the
node is put together from them. -/
structure Plan where
  shape : Shape
  parts : List (GrammarTree × Nat)

def atDepth (depth : Nat) (ts : List GrammarTree) : List (GrammarTree × Nat) :=
  ts.map (·, depth)

def planOther (t : GrammarTree) (depth : Nat) : Plan :=
  ⟨.other, atDepth (depth + 1) t.namedParts⟩

/-- A plan over two parts in their roles. -/
def planPair (t : GrammarTree) (depth : Nat) (first second : Role) (shape : Shape) : Plan :=
  match t.inRole? first, t.inRole? second with
  | some a, some b => ⟨shape, atDepth (depth + 1) [a, b]⟩
  | _, _ => planOther t depth

def operatorText (source : String) (t : GrammarTree) : String :=
  ((t.inRole? .operator).map (text source)).getD ""

/-- A call, or a tag with its template. -/
def planCall (source : String) (t : GrammarTree) (depth : Nat) : Plan :=
  match t.inRole? .function, t.inRole? .arguments with
  | some callee, some args =>
      if args.kind == "template_string" then
        ⟨.tagged args.span (templateQuasis source args),
          (callee, depth + 1) :: atDepth (depth + 2) (templateExpressions args)⟩
      else ⟨.call, (callee, depth + 1) :: atDepth (depth + 1) args.namedParts⟩
  | some callee, none => ⟨.call, [(callee, depth + 1)]⟩
  | none, _ => planOther t depth

def planConstruct (t : GrammarTree) (depth : Nat) : Plan :=
  match t.inRole? .constructor, t.inRole? .arguments with
  | some callee, some args =>
      ⟨.construct, (callee, depth + 1) :: atDepth (depth + 1) args.namedParts⟩
  | some callee, none => ⟨.construct, [(callee, depth + 1)]⟩
  | none, _ => planOther t depth

def planDeclarator (t : GrammarTree) (depth : Nat) : Plan :=
  match t.inRole? .name, t.inRole? .value with
  | some id, some init => ⟨.declarator, atDepth (depth + 1) [id, init]⟩
  | some id, none => ⟨.declarator, atDepth (depth + 1) [id]⟩
  | none, _ => planOther t depth

def isShorthand (t : GrammarTree) : Bool :=
  t.kind == "shorthand_property_identifier"

/-- A property that is only a name will become two nodes below the
property, so it counts one deeper. -/
def planObject (t : GrammarTree) (depth : Nat) : Plan :=
  ⟨.object (t.namedParts.map isShorthand),
    t.namedParts.map fun p => (p, if isShorthand p then depth + 2 else depth + 1)⟩

def planAttribute (source : String) (t : GrammarTree) (depth : Nat) : Plan :=
  match t.namedParts with
  | name :: value :: _ => ⟨.jsxAttribute (text source name), [(value, depth + 1)]⟩
  | [name] => ⟨.jsxAttribute (text source name), []⟩
  | [] => planOther t depth

/-- The plan for an interior node. -/
def plan (source : String) (t : GrammarTree) (depth : Nat) : Plan :=
  match t.kind with
  | "template_string" =>
      ⟨.template (templateQuasis source t), atDepth (depth + 1) (templateExpressions t)⟩
  | "binary_expression" =>
      planPair t depth .left .right (.binary (operatorText source t))
  | "assignment_expression" => planPair t depth .left .right (.assignment "=")
  | "augmented_assignment_expression" =>
      planPair t depth .left .right (.assignment (operatorText source t))
  | "call_expression" => planCall source t depth
  | "new_expression" => planConstruct t depth
  | "member_expression" => planPair t depth .object .property (.member false)
  | "subscript_expression" => planPair t depth .object .index (.member true)
  | "variable_declarator" => planDeclarator t depth
  | "object" => planObject t depth
  | "pair" => planPair t depth .key .value .pair
  | "array" => ⟨.array, atDepth (depth + 1) t.namedParts⟩
  | "jsx_attribute" => planAttribute source t depth
  | _ => planOther t depth

/-! ## Assembly -/

/-- A property; one that is only a name is both key and value. -/
def property (child : Node) (short : Bool) : Node :=
  if short then .property child.span child child true else child

/-- The node of a shape over its lowered parts, if there are enough of
them. -/
def Shape.build? (span : Span) : Shape → List Node → Option Node
  | .binary operator, left :: right :: _ => some (.binary span operator left right)
  | .assignment operator, left :: right :: _ => some (.assignment span operator left right)
  | .member computed, receiver :: name :: _ =>
      some (.member span receiver name computed)
  | .declarator, id :: rest => some (.declarator span id rest.head?)
  | .pair, key :: value :: _ => some (.property span key value false)
  | .jsxAttribute name, rest => some (.jsxAttribute span name rest.head?)
  | .call, callee :: arguments => some (.call span callee arguments)
  | .construct, callee :: arguments => some (.construct span callee arguments)
  | .tagged templateSpan quasis, tag :: expressions =>
      some (.tagged span tag (.template templateSpan quasis expressions))
  | .template quasis, expressions => some (.template span quasis expressions)
  | .array, elements => some (.array span elements)
  | .object shorthand, children =>
      some (.object span (List.zipWith property children shorthand))
  | _, _ => none

def assemble (t : GrammarTree) (shape : Shape) (children : List Node) : Node :=
  match shape with
  | .other => other t children
  | shape => (shape.build? t.span children).getD (other t [])

/-! ## The task machine -/

/-- What is still to be done: lower a tree, which adds one finished
node, or assemble one from the last `arity` finished nodes. -/
inductive Task where
  | lower (tree : GrammarTree) (depth : Nat)
  | assemble (tree : GrammarTree) (shape : Shape) (arity : Nat)
  deriving Inhabited

/-- What the machine does with a tree: finish it right away, go on
with the tree inside its parentheses, or plan it. -/
inductive Move where
  | finish (node : Node)
  | enter (inner : GrammarTree)
  | expand (plan : Plan)

def move (source : String) (t : GrammarTree) (depth : Nat) : Move :=
  if depth > maxDepth then .finish (other t [])
  else if t.kind == "parenthesized_expression" then
    match t.namedParts with
    | inner :: _ => .enter inner
    | [] => .finish (other t [])
  else
    match leaf? source t with
    | some node => .finish node
    | none => .expand (plan source t depth)

/-! ### Why the machine stops -/

theorem sizeOf_le_total {t : GrammarTree} {ts : List GrammarTree} (h : t ∈ ts) :
    sizeOf t ≤ total (ts.map sizeOf) := by
  induction ts with
  | nil => cases h
  | cons u us ih =>
      simp only [List.map_cons, total_cons]
      cases h with
      | head => omega
      | tail _ h => have := ih h; omega

/-- Two parts in different roles are two parts. -/
theorem sizeOf_roles_le {ts : List GrammarTree} {a b : GrammarTree} {r s : Role}
    (hne : r ≠ s) (ha : ts.find? (·.label.role == some r) = some a)
    (hb : ts.find? (·.label.role == some s) = some b) :
    sizeOf a + sizeOf b ≤ total (ts.map sizeOf) := by
  induction ts with
  | nil => cases ha
  | cons t ts ih =>
      simp only [List.map_cons, total_cons]
      by_cases hr : t.label.role = some r
      · have hs : (t.label.role == some s) = false := by simp [hr, hne]
        simp only [List.find?_cons, hr, beq_self_eq_true] at ha
        simp only [List.find?_cons, hs] at hb
        cases ha
        have := sizeOf_le_total (List.mem_of_find?_eq_some hb)
        omega
      · have hr' : (t.label.role == some r) = false := by simp [hr]
        simp only [List.find?_cons, hr'] at ha
        by_cases hs : t.label.role = some s
        · simp only [List.find?_cons, hs, beq_self_eq_true] at hb
          cases hb
          have := sizeOf_le_total (List.mem_of_find?_eq_some ha)
          omega
        · have hs' : (t.label.role == some s) = false := by simp [hs]
          simp only [List.find?_cons, hs'] at hb
          have := ih ha hb
          omega

/-- The size of the trees that a plan goes on with. -/
noncomputable def Plan.size (p : Plan) : Nat :=
  total (p.parts.map (sizeOf ·.1))

theorem total_atDepth (depth : Nat) (ts : List GrammarTree) :
    total ((atDepth depth ts).map (sizeOf ·.1)) = total (ts.map sizeOf) := by
  simp [atDepth, Function.comp_def]

theorem planOther_size (t : GrammarTree) (depth : Nat) :
    (planOther t depth).size < sizeOf t := by
  simpa [Plan.size, planOther, total_atDepth] using t.namedParts_sizeOf

theorem planPair_size (t : GrammarTree) (depth : Nat) {r s : Role} (h : r ≠ s)
    (shape : Shape) : (planPair t depth r s shape).size < sizeOf t := by
  unfold planPair
  split
  · next a b ha hb =>
    have h1 := sizeOf_roles_le h ha hb
    have h2 := t.parts_sizeOf
    simp only [Plan.size, total_atDepth, List.map_cons, List.map_nil, total_cons,
      total_nil]
    omega
  · exact planOther_size t depth

theorem total_heads_le (ts : List GrammarTree) :
    total ((ts.filterMap (·.namedParts.head?)).map sizeOf) ≤ total (ts.map sizeOf) := by
  induction ts with
  | nil => simp
  | cons t ts ih =>
      cases h : t.namedParts.head? with
      | none => simp [h]; omega
      | some u =>
          have hu : sizeOf u ≤ total (t.namedParts.map sizeOf) :=
            sizeOf_le_total (List.mem_of_mem_head? (by simp [h]))
          have := t.namedParts_sizeOf
          simp [h]; omega

theorem templateExpressions_size (t : GrammarTree) :
    total ((templateExpressions t).map sizeOf) < sizeOf t :=
  calc total ((templateExpressions t).map sizeOf)
      ≤ total ((substitutions t).map sizeOf) := total_heads_le _
    _ ≤ total (t.namedParts.map sizeOf) := GrammarTree.total_sizeOf_filter_le _ _
    _ < sizeOf t := t.namedParts_sizeOf

theorem planCall_size (source : String) (t : GrammarTree) (depth : Nat) :
    (planCall source t depth).size < sizeOf t := by
  have h2 := t.parts_sizeOf
  unfold planCall
  split
  · next callee args hc ha =>
    have h1 := sizeOf_roles_le (by decide) hc ha
    split
    · have := templateExpressions_size args
      simp only [Plan.size, List.map_cons, total_cons, total_atDepth]
      omega
    · have := args.namedParts_sizeOf
      simp only [Plan.size, List.map_cons, total_cons, total_atDepth]
      omega
  · next callee hc _ =>
    have := sizeOf_le_total (List.mem_of_find?_eq_some hc)
    simp only [Plan.size, List.map_cons, List.map_nil, total_cons, total_nil]
    omega
  · exact planOther_size t depth

theorem planConstruct_size (t : GrammarTree) (depth : Nat) :
    (planConstruct t depth).size < sizeOf t := by
  have h2 := t.parts_sizeOf
  unfold planConstruct
  split
  · next callee args hc ha =>
    have h1 := sizeOf_roles_le (by decide) hc ha
    have := args.namedParts_sizeOf
    simp only [Plan.size, List.map_cons, total_cons, total_atDepth]
    omega
  · next callee hc _ =>
    have := sizeOf_le_total (List.mem_of_find?_eq_some hc)
    simp only [Plan.size, List.map_cons, List.map_nil, total_cons, total_nil]
    omega
  · exact planOther_size t depth

theorem planDeclarator_size (t : GrammarTree) (depth : Nat) :
    (planDeclarator t depth).size < sizeOf t := by
  have h2 := t.parts_sizeOf
  unfold planDeclarator
  split
  · next id init hi hv =>
    have h1 := sizeOf_roles_le (by decide) hi hv
    simp only [Plan.size, total_atDepth, List.map_cons, List.map_nil, total_cons,
      total_nil]
    omega
  · next id hi _ =>
    have := sizeOf_le_total (List.mem_of_find?_eq_some hi)
    simp only [Plan.size, total_atDepth, List.map_cons, List.map_nil, total_cons,
      total_nil]
    omega
  · exact planOther_size t depth

theorem planObject_size (t : GrammarTree) (depth : Nat) :
    (planObject t depth).size < sizeOf t := by
  simpa [Plan.size, planObject, Function.comp_def] using t.namedParts_sizeOf

theorem planAttribute_size (source : String) (t : GrammarTree) (depth : Nat) :
    (planAttribute source t depth).size < sizeOf t := by
  have h := t.namedParts_sizeOf
  unfold planAttribute
  split
  · next name value rest hp =>
    rw [hp] at h
    simp only [List.map_cons, total_cons] at h
    simp only [Plan.size, List.map_cons, List.map_nil, total_cons, total_nil]
    omega
  · simp only [Plan.size, List.map_nil, total_nil]
    omega
  · exact planOther_size t depth

/-- A plan goes on with less than the tree that it is for. -/
theorem plan_size (source : String) (t : GrammarTree) (depth : Nat) :
    (plan source t depth).size < sizeOf t := by
  unfold plan
  split
  case h_1 => simpa [Plan.size, total_atDepth] using templateExpressions_size t
  case h_5 => exact planCall_size source t depth
  case h_6 => exact planConstruct_size t depth
  case h_9 => exact planDeclarator_size t depth
  case h_10 => exact planObject_size t depth
  case h_12 => simpa [Plan.size, total_atDepth] using t.namedParts_sizeOf
  case h_13 => exact planAttribute_size source t depth
  case h_14 => exact planOther_size t depth
  all_goals exact planPair_size t depth (by decide) _

/-- Weighs a task, so that each step makes the stack lighter. -/
noncomputable def Task.weight : Task → Nat
  | .lower t _ => 2 * sizeOf t
  | .assemble .. => 1

theorem sizeOf_pos (t : GrammarTree) : 0 < sizeOf t :=
  Nat.lt_of_le_of_lt (Nat.zero_le _) t.parts_sizeOf

theorem total_weight_lower (ps : List (GrammarTree × Nat)) :
    total ((ps.map fun p => Task.lower p.1 p.2).map Task.weight)
      = 2 * total (ps.map (sizeOf ·.1)) := by
  induction ps with
  | nil => simp
  | cons p ps ih =>
      simp only [List.map_cons, total_cons, ih, Task.weight]
      omega

theorem move_enter_size {source : String} {t inner : GrammarTree} {depth : Nat}
    (h : move source t depth = .enter inner) : sizeOf inner < sizeOf t := by
  unfold move at h
  split at h
  · cases h
  · split at h
    · split at h
      · next u us hu =>
        cases h
        have := t.namedParts_sizeOf
        rw [hu] at this
        simp only [List.map_cons, total_cons] at this
        omega
      · cases h
    · split at h <;> cases h

theorem move_expand_size {source : String} {t : GrammarTree} {p : Plan} {depth : Nat}
    (h : move source t depth = .expand p) : p.size < sizeOf t := by
  unfold move at h
  split at h
  · cases h
  · split at h
    · split at h <;> cases h
    · split at h
      · cases h
      · cases h; exact plan_size source t depth

/-- Works off the tasks; the finished nodes are kept last first. -/
def runTasks (source : String) (finished : List Node) : List Task → List Node
  | [] => finished
  | .assemble t shape arity :: tasks =>
      let node := assemble t shape (finished.take arity).reverse
      runTasks source (node :: finished.drop arity) tasks
  | .lower t depth :: tasks =>
      match _h : move source t depth with
      | .finish node => runTasks source (node :: finished) tasks
      | .enter inner => runTasks source finished (.lower inner depth :: tasks)
      | .expand p =>
          runTasks source finished
            (p.parts.map (fun q => .lower q.1 q.2)
              ++ .assemble t p.shape p.parts.length :: tasks)
termination_by tasks => total (tasks.map Task.weight)
decreasing_by
  · simp [Task.weight]
  · have := sizeOf_pos t
    simp only [List.map_cons, total_cons, Task.weight]
    omega
  · have := move_enter_size _h
    simp only [List.map_cons, total_cons, Task.weight]
    omega
  · have := move_expand_size _h
    have htotal := total_weight_lower p.parts
    simp only [Plan.size] at this
    simp only [List.map_append, total_append, List.map_cons, total_cons, htotal,
      Task.weight]
    omega

/-- The analysis tree of a grammar tree. -/
def lower (source : String) (root : GrammarTree) : Node :=
  (runTasks source [] [.lower root 0]).headD (other root [])

end ScriptScout.Lowering
