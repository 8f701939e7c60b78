import ScriptScout.Proofs.WalkOrder

/-!
# The nodes of a tree

`OccursAt root depth n` says that `n` stands in the tree `depth` levels
below its root. It knows nothing of stacks or bounds; the walk is
measured against it: `mem_visits` says that the walk lists a node at a
depth exactly if the node occurs there and the depth is within the
bound.

The walk lists what `Node.listing` does, down to the bound. So it is
enough to compare the two descriptions of a tree: what is listed below a
node that occurs occurs as well, by induction over the listing, and an
occurrence is followed down from the root, since a listing is closed
under parts (`child_mem_listing`).
-/

namespace ScriptScout

namespace Node

/-- `n` stands in the tree, `depth` levels below the root. -/
inductive OccursAt (root : Node) : Nat → Node → Prop
  | root : OccursAt root 0 root
  | child {depth : Nat} {n m : Node} :
      OccursAt root depth n → m ∈ n.children → OccursAt root (depth + 1) m

theorem occursAt_of_mem_listing {root n : Node} {depth : Nat} {v : Visit}
    (h : root.OccursAt depth n) (hv : v ∈ n.listing depth) : root.OccursAt v.depth v.node := by
  fun_induction listing depth n with
  | case1 depth n ih =>
      rcases List.mem_cons.mp hv with rfl | hbelow
      · exact h
      · obtain ⟨c, -, hc⟩ := List.mem_flatMap.mp hbelow
        exact ih c (h.child c.2) hc

theorem mem_listing_self (depth : Nat) (n : Node) : ⟨depth, n⟩ ∈ n.listing depth := by
  rw [listing_eq]
  exact List.mem_cons_self ..

/-- A listing is closed under parts. -/
theorem child_mem_listing {n m : Node} {depth : Nat} {v : Visit} (hv : v ∈ n.listing depth)
    (hm : m ∈ v.node.children) : ⟨v.depth + 1, m⟩ ∈ n.listing depth := by
  fun_induction listing depth n with
  | case1 depth n ih =>
      refine List.mem_cons_of_mem _ ?_
      rcases List.mem_cons.mp hv with rfl | hbelow
      · exact List.mem_flatMap.mpr ⟨⟨m, hm⟩, List.mem_attach .., mem_listing_self ..⟩
      · obtain ⟨c, hmem, hc⟩ := List.mem_flatMap.mp hbelow
        exact List.mem_flatMap.mpr ⟨c, hmem, ih c hc⟩

theorem mem_listing_of_occursAt {root n : Node} {depth : Nat} (h : root.OccursAt depth n) :
    ⟨depth, n⟩ ∈ root.listing 0 := by
  induction h with
  | root => exact mem_listing_self 0 root
  | child _ hm ih => exact child_mem_listing ih hm

/-- The walk lists exactly the nodes that occur within its bound. -/
theorem mem_visits {root : Node} {limit : Nat} {v : Visit} :
    v ∈ root.visits limit ↔ root.OccursAt v.depth v.node ∧ v.depth ≤ limit := by
  rw [visits_eq_filter, List.mem_filter, decide_eq_true_eq]
  exact and_congr_left fun _ => ⟨occursAt_of_mem_listing .root, mem_listing_of_occursAt⟩

end Node

end ScriptScout
