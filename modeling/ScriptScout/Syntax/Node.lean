import ScriptScout.Grammar.Tree

/-!
# The analysis tree

The tree that the detectors read. Only the shapes that some detector
looks at have a constructor of their own; every other construct is an
`other` node under the grammar's name for it, so that a walk still
reaches what lies below.

`children` lists the parts of a node in source order, and
`children_sizeOf` makes recursion over them terminate.
-/

namespace ScriptScout

/-- The value of a literal. A regular expression keeps its source
text. -/
inductive Literal where
  | string (value : String)
  | number (value : Float)
  | boolean (value : Bool)
  | null
  | regex (source : String)
  deriving Repr, BEq, Inhabited

/-- A chunk of a template literal between two substitutions, as it
stands in the source. -/
structure Quasi where
  span : Span
  raw : String
  deriving Repr, BEq, DecidableEq, Inhabited

inductive Node where
  | identifier (span : Span) (name : String)
  | literal (span : Span) (value : Literal)
  | template (span : Span) (quasis : List Quasi) (expressions : List Node)
  | tagged (span : Span) (tag quasi : Node)
  | binary (span : Span) (operator : String) (left right : Node)
  | assignment (span : Span) (operator : String) (left right : Node)
  | call (span : Span) (callee : Node) (arguments : List Node)
  | construct (span : Span) (callee : Node) (arguments : List Node)
  | member (span : Span) (object property : Node) (computed : Bool)
  | declarator (span : Span) (id : Node) (init : Option Node)
  | object (span : Span) (properties : List Node)
  | array (span : Span) (elements : List Node)
  | property (span : Span) (key value : Node) (shorthand : Bool)
  | jsxAttribute (span : Span) (name : String) (value : Option Node)
  | other (span : Span) (kind : String) (children : List Node)
  deriving Repr, BEq, Inhabited

namespace Node

def span : Node → Span
  | identifier s _ | literal s _ | template s _ _ | tagged s _ _
  | binary s _ _ _ | assignment s _ _ _ | call s _ _ | construct s _ _
  | member s _ _ _ | declarator s _ _ | object s _ | array s _
  | property s _ _ _ | jsxAttribute s _ _ | other s _ _ => s

/-- The parts of a node, in source order. -/
def children : Node → List Node
  | identifier .. | literal .. => []
  | template _ _ expressions => expressions
  | tagged _ tag quasi => [tag, quasi]
  | binary _ _ left right | assignment _ _ left right => [left, right]
  | call _ callee arguments | construct _ callee arguments =>
      callee :: arguments
  | member _ receiver name _ => [receiver, name]
  | declarator _ id init => id :: init.toList
  | object _ properties => properties
  | array _ elements => elements
  | property _ key value _ => [key, value]
  | jsxAttribute _ _ value => value.toList
  | other _ _ children => children

/-- The name of a node's shape; an `other` node has the grammar's
name. -/
def typeName : Node → String
  | identifier .. => "Identifier"
  | literal .. => "Literal"
  | template .. => "TemplateLiteral"
  | tagged .. => "TaggedTemplateExpression"
  | binary .. => "BinaryExpression"
  | assignment .. => "AssignmentExpression"
  | call .. => "CallExpression"
  | construct .. => "NewExpression"
  | member .. => "MemberExpression"
  | declarator .. => "VariableDeclarator"
  | object .. => "ObjectExpression"
  | array .. => "ArrayExpression"
  | property .. => "Property"
  | jsxAttribute .. => "JSXAttribute"
  | other _ kind _ => kind

/-! ## Views

Each view answers one question of a detector and is `none` on every
other shape. -/

def identifier? : Node → Option String
  | identifier _ name => some name
  | _ => none

def string? : Node → Option String
  | literal _ (.string value) => some value
  | _ => none

def isIdentifier (n : Node) (name : String) : Bool :=
  n.identifier? == some name

/-- Object and property name of a member access written with a dot. -/
def member? : Node → Option (Node × String)
  | member _ receiver name false => name.identifier?.map (receiver, ·)
  | _ => none

def memberName? (n : Node) : Option String :=
  n.member?.map (·.2)

/-- Is the node `objectName.propertyName`? -/
def isMemberOf (n : Node) (objectName propertyName : String) : Bool :=
  match n.member? with
  | some (receiver, name) =>
      name == propertyName && receiver.isIdentifier objectName
  | none => false

/-- Does the node denote the location object of the page? -/
def isLocation (n : Node) : Bool :=
  n.isIdentifier "location" || n.isMemberOf "window" "location"
    || n.isMemberOf "document" "location"

/-- The key of a property, if it is an identifier or a string. -/
def propertyKey? : Node → Option String
  | property _ key _ _ => key.identifier?.or key.string?
  | _ => none

def propertyValue? : Node → Option Node
  | property _ _ value _ => some value
  | _ => none

/-- The value under `key` in an object: the first property with that
key counts. -/
def lookup? (n : Node) (key : String) : Option Node :=
  match n with
  | object _ properties =>
      (properties.find? (·.propertyKey? == some key)).bind (·.propertyValue?)
  | _ => none

def arguments : Node → List Node
  | call _ _ arguments | construct _ _ arguments => arguments
  | _ => []

/-! ## Size -/

theorem total_sizeOf_le (ns : List Node) : total (ns.map sizeOf) < sizeOf ns := by
  induction ns with
  | nil => simp
  | cons n ns ih => simp; omega

/-- The children of a node weigh less than the node. -/
theorem children_sizeOf (n : Node) : total (n.children.map sizeOf) < sizeOf n := by
  cases n with
  | template _ _ es | object _ es | array _ es | other _ _ es =>
      have := total_sizeOf_le es
      simp only [children]; simp; omega
  | call _ _ es | construct _ _ es =>
      have := total_sizeOf_le es
      simp only [children]; simp; omega
  | declarator _ _ init => cases init <;> simp +arith [children]
  | jsxAttribute _ _ value => cases value <;> simp +arith [children]
  | _ => simp +arith [children]

theorem sizeOf_pos (n : Node) : 0 < sizeOf n :=
  Nat.lt_of_le_of_lt (Nat.zero_le _) (children_sizeOf n)

end Node

end ScriptScout
