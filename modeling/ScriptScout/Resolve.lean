import ScriptScout.Syntax.Node
import ScriptScout.Text.Basic
import Std.Data.HashMap

/-!
# String values of expressions

`resolve` rebuilds the string that an expression denotes as far as it
can be told without running the program. String literals denote
themselves, names denote what they are bound to, templates and
concatenations are put together from their parts, and a part that
cannot be told stands as `placeholder`.

A concatenation is a tree of `+` and `.concat(...)`; it is read by a
machine over a stack of parts (`runParts`), so that its depth costs no
recursion.
-/

namespace ScriptScout

/-- The strings that names are bound to; a later binding of a name
replaces the earlier one. -/
structure Bindings where
  values : Std.HashMap String String := {}
  deriving Inhabited

namespace Bindings

def bind (b : Bindings) (name value : String) : Bindings :=
  ⟨b.values.insert name value⟩

def get? (b : Bindings) (name : String) : Option String :=
  b.values[name]?

def size (b : Bindings) : Nat :=
  b.values.size

def isEmpty (b : Bindings) : Bool :=
  b.values.isEmpty

end Bindings

/-- What stands for a part whose value cannot be told. -/
def placeholder : String := "EXPR"

namespace Node

/-- Is the node a call of the form `x.concat(...)`? -/
def isConcatCall : Node → Bool
  | call _ callee _ => callee.memberName? == some "concat"
  | _ => false

/-- Is the value put together at run time: a template or a `+`? -/
def isDynamic : Node → Bool
  | template .. => true
  | binary _ operator _ _ => operator == "+"
  | _ => false

/-- The value of a part of a larger expression: a string literal, a
bound name, or the placeholder. -/
def operand (b : Bindings) (n : Node) : String :=
  match n.string? with
  | some value => value
  | none => (n.identifier?.bind b.get?).getD placeholder

/-- The chunks of a template with the values of the expressions
between them. -/
def templateText (b : Bindings) : List Quasi → List Node → String
  | [], _ => ""
  | [q], _ => q.raw
  | q :: qs, [] => q.raw ++ placeholder ++ templateText b qs []
  | q :: qs, e :: es => q.raw ++ e.operand b ++ templateText b qs es

end Node

/-! ## The concatenation machine -/

/-- What is still to be written: a concatenation to take apart, a
plain operand, or the placeholder. -/
inductive Part where
  | concat (node : Node)
  | operand (node : Node)
  | placeholder
  deriving Inhabited

namespace Part

/-- The parts that a concatenation consists of, in source order, or
`none` for a node that is not one. -/
def split? : Node → Option (List Part)
  | .binary _ operator left right =>
      if operator == "+" then some [concat left, concat right] else none
  | .call _ callee arguments =>
      if callee.memberName? == some "concat" then
        match callee with
        | .member _ object _ _ => some (concat object :: arguments.map operand)
        | _ => some [placeholder]
      else none
  | _ => none

/-- Weighs the node below a part, so that taking one apart makes the
stack lighter. -/
noncomputable def weight : Part → Nat
  | concat n => 2 * sizeOf n + 1
  | operand _ => 1
  | placeholder => 1

theorem total_weight_operands (ns : List Node) :
    total ((ns.map operand).map weight) ≤ total (ns.map sizeOf) := by
  induction ns with
  | nil => simp
  | cons n ns ih =>
      have := n.sizeOf_pos
      simp only [List.map_cons, total_cons, weight]
      omega

/-- The parts of a concatenation weigh less than the concatenation. -/
theorem total_weight_split {n : Node} {ps : List Part}
    (h : split? n = some ps) : total (ps.map weight) < (concat n).weight := by
  unfold split? at h
  split at h
  · split at h
    · cases h; simp [weight]; omega
    · cases h
  · split at h
    · split at h
      · next args _ _ _ _ _ _ =>
        cases h
        have hargs := total_weight_operands args
        have hsize := Node.total_sizeOf_le args
        simp only [List.map_cons, total_cons, weight,
          Node.call.sizeOf_spec, Node.member.sizeOf_spec]
        omega
      · cases h; simp +arith [weight]
    · cases h
  · cases h

end Part

/-- Writes out a stack of parts, taking concatenations apart as they
come to the top. -/
def runParts (b : Bindings) (out : String) : List Part → String
  | [] => out
  | .placeholder :: rest => runParts b (out ++ placeholder) rest
  | .operand n :: rest => runParts b (out ++ n.operand b) rest
  | .concat n :: rest =>
      match _h : Part.split? n with
      | some parts => runParts b out (parts ++ rest)
      | none => runParts b (out ++ n.operand b) rest
termination_by parts => total (parts.map Part.weight)
decreasing_by
  · simp [Part.weight]
  · simp [Part.weight]
  · have := Part.total_weight_split _h
    simp only [List.map_append, total_append, List.map_cons, total_cons]
    omega
  · simp [Part.weight]

/-- The string that an expression denotes, if it can be told at all. -/
def Node.resolve (b : Bindings) : Node → Option String
  | .literal _ (.string value) => some value
  | .template _ quasis expressions => some (templateText b quasis expressions)
  | n@(.binary _ operator _ _) =>
      if operator == "+" then some (runParts b "" [.concat n]) else none
  | n@(.call ..) =>
      if n.isConcatCall then some (runParts b "" [.concat n]) else none
  | .identifier _ name => b.get? name
  | _ => none

/-! ## Normal form of a reported value -/

/-- Removes the character `q` from both ends of a text that starts and
ends with it. -/
def unwrap (q : Char) : List Char → Option (List Char)
  | c :: rest =>
      if c == q && rest.getLast? == some q then some rest.dropLast else none
  | [] => none

/-- A value as it is reported: without blanks at its ends, without one
pair of quotes around it, and then without one pair of backticks. -/
def normalizeValue (value : String) : String :=
  let text := Text.trim value.toList
  let text := ((unwrap '"' text).or (unwrap '\x27' text)).getD text
  String.ofList ((unwrap '\x60' text).getD text)

end ScriptScout
