import ScriptScout.Syntax.Node

/-!
# The bounded walk

`Node.visits limit` lists the nodes of a tree in the order in which an
analysis meets them: each node before its parts, parts in source
order, and nothing deeper than `limit`. The list is produced by a
machine over a stack of pending nodes, so that the depth of the tree
costs no recursion.
-/

namespace ScriptScout

/-- A node with its depth below the root. -/
structure Visit where
  depth : Nat
  node : Node
  deriving Repr, Inhabited

namespace Node

/-- Visits the pending nodes and all that lies below them within the
bound. -/
def visitsFrom (limit : Nat) : List Visit → List Visit
  | [] => []
  | v :: rest =>
      if v.depth > limit then visitsFrom limit rest
      else v :: visitsFrom limit
        (v.node.children.map (Visit.mk (v.depth + 1)) ++ rest)
termination_by pending => total (pending.map (sizeOf ·.node))
decreasing_by
  · have := v.node.sizeOf_pos
    simp; omega
  · have := children_sizeOf v.node
    simp [Function.comp_def]; omega

/-- The visits of a walk from the root that goes no deeper than
`limit`. -/
def visits (limit : Nat) (root : Node) : List Visit :=
  visitsFrom limit [⟨0, root⟩]

end Node

end ScriptScout
