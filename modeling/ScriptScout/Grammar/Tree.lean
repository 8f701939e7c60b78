import ScriptScout.Text.Span

/-!
# Grammar trees

What the grammar makes of a source text: nodes with the grammar's name
for their kind, the span that they cover, and their parts in source
order. A part may have a role in its parent. Punctuation and keywords
leave no part behind, except for the operator of an expression, which
is a part without a name.

A machine over a stack of pending trees stops because the total of the
sizes on its stack goes down.
-/

namespace ScriptScout

/-! ## Totals -/

/-- The total of a list of numbers. -/
def total : List Nat → Nat
  | [] => 0
  | n :: ns => n + total ns

@[simp] theorem total_nil : total [] = 0 := rfl

@[simp] theorem total_cons (n : Nat) (ns : List Nat) : total (n :: ns) = n + total ns := rfl

@[simp] theorem total_append (ms ns : List Nat) : total (ms ++ ns) = total ms + total ns := by
  induction ms with
  | nil => simp
  | cons m ms ih => simp [ih, Nat.add_assoc]

/-! ## Trees -/

/-- The place of a part in its parent, where the kind of the parent
alone does not tell. -/
inductive Role where
  | left
  | right
  | operator
  | function
  | arguments
  | constructor
  | object
  | property
  | index
  | name
  | value
  | key
  deriving Repr, DecidableEq, Inhabited

/-- What a grammar node says about itself. A `missing` node stands for
a token that the text should have had. -/
structure Label where
  kind : String
  span : Span
  named : Bool := true
  role : Option Role := none
  missing : Bool := false
  deriving Repr, DecidableEq, Inhabited

inductive GrammarTree where
  | node (label : Label) (parts : List GrammarTree)
  deriving Repr, Inhabited

namespace GrammarTree

def label : GrammarTree → Label
  | node label _ => label

def parts : GrammarTree → List GrammarTree
  | node _ parts => parts

def kind (t : GrammarTree) : String := t.label.kind

def span (t : GrammarTree) : Span := t.label.span

/-- The same tree in another role. -/
def withRole (role : Role) : GrammarTree → GrammarTree
  | node label parts => node { label with role := some role } parts

/-- The same tree under another kind. -/
def withKind (kind : String) : GrammarTree → GrammarTree
  | node label parts => node { label with kind := kind } parts

def isComment (t : GrammarTree) : Bool :=
  t.kind == "comment" || t.kind == "html_comment"

/-- The named parts, without comments. -/
def namedParts (t : GrammarTree) : List GrammarTree :=
  t.parts.filter fun p => p.label.named && !p.isComment

/-- The first part in a role. -/
def inRole? (t : GrammarTree) (role : Role) : Option GrammarTree :=
  t.parts.find? (·.label.role == some role)

/-! ## Size -/

theorem total_sizeOf_le (ts : List GrammarTree) :
    total (ts.map sizeOf) < sizeOf ts := by
  induction ts with
  | nil => simp
  | cons t ts ih => simp; omega

/-- The parts of a tree weigh less than the tree. -/
theorem parts_sizeOf (t : GrammarTree) :
    total (t.parts.map sizeOf) < sizeOf t := by
  cases t with
  | node label parts =>
      have := total_sizeOf_le parts
      simp [GrammarTree.parts]; omega

theorem total_sizeOf_filter_le (p : GrammarTree → Bool) (ts : List GrammarTree) :
    total ((ts.filter p).map sizeOf) ≤ total (ts.map sizeOf) := by
  induction ts with
  | nil => simp
  | cons t ts ih =>
      by_cases h : p t <;> simp [h] <;> omega

/-- So do its named parts. -/
theorem namedParts_sizeOf (t : GrammarTree) :
    total (t.namedParts.map sizeOf) < sizeOf t :=
  Nat.lt_of_le_of_lt (total_sizeOf_filter_le _ _) t.parts_sizeOf

end GrammarTree

end ScriptScout
