import Mathlib.Data.List.Flatten
import Mathlib.Order.Basic
import ScriptScout.Walk

/-!
# The walk is a bounded preorder

`Node.listing` goes over a whole tree by recursion: a node, then what
lies below its parts, one part after the other. The walk keeps a stack
of pending nodes instead and drops what is too deep. It meets the same
nodes at the same depths, less those below the bound
(`visits_eq_filter`): a stack stands for the listings of all that is
pending, and what is dropped could only have led further down.

A node of a tree is told from an equal one elsewhere by its address,
the positions of the parts that lead to it. `Node.addresses` lists
them in the same order, and that order is the lexicographic one
(`addresses_increasing`). So every address within the bound has its one
place in a walk: a part stands behind the node it belongs to and before
the parts that follow it.
-/

namespace ScriptScout

theorem le_total_of_mem {n : Nat} {ns : List Nat} (h : n ∈ ns) : n ≤ total ns := by
  induction ns with
  | nil => cases h
  | cons m ns ih =>
      rw [total_cons]
      rcases List.mem_cons.mp h with rfl | hrest
      · omega
      · have := ih hrest
        omega

namespace Node

/-! ## The listing of a tree -/

theorem sizeOf_lt_of_mem_children {n c : Node} (h : c ∈ n.children) : sizeOf c < sizeOf n :=
  Nat.lt_of_le_of_lt (le_total_of_mem (List.mem_map_of_mem h)) (children_sizeOf n)

/-- Every node of a tree with its depth, each before its parts; the
root has the given depth. -/
def listing (depth : Nat) (n : Node) : List Visit :=
  ⟨depth, n⟩ :: n.children.attach.flatMap fun c => listing (depth + 1) c.1
termination_by sizeOf n
decreasing_by exact sizeOf_lt_of_mem_children c.2

theorem listing_eq (depth : Nat) (n : Node) :
    n.listing depth = ⟨depth, n⟩ :: n.children.flatMap (listing (depth + 1)) := by
  rw [listing, List.flatMap_subtype, List.unattach_attach]
  intro c hc
  rfl

/-- A listing goes down only. -/
theorem le_depth_of_mem_listing {depth : Nat} {n : Node} {v : Visit}
    (h : v ∈ n.listing depth) : depth ≤ v.depth := by
  fun_induction listing depth n with
  | case1 depth n ih =>
      rcases List.mem_cons.mp h with rfl | hbelow
      · exact Nat.le_refl _
      · obtain ⟨c, -, hc⟩ := List.mem_flatMap.mp hbelow
        exact Nat.le_of_succ_le (ih c hc)

end Node

/-! ## The stack -/

/-- What a pending visit leads to, the bound aside. -/
def Visit.listing (v : Visit) : List Visit := v.node.listing v.depth

namespace Node

/-- A node below the bound leads to nothing within it. -/
theorem filter_listing_of_lt {limit depth : Nat} (n : Node) (h : limit < depth) :
    (n.listing depth).filter (·.depth ≤ limit) = [] := by
  rw [List.filter_eq_nil_iff]
  intro v hv hwithin
  have hdeep := le_depth_of_mem_listing hv
  have hwithin : v.depth ≤ limit := of_decide_eq_true hwithin
  omega

theorem filter_listing_self (depth : Nat) (n : Node) :
    (n.listing depth).filter (·.depth ≤ depth) = [⟨depth, n⟩] := by
  have hbelow : (n.children.flatMap (listing (depth + 1))).filter (·.depth ≤ depth) = [] := by
    rw [List.filter_flatMap, List.flatMap_eq_nil_iff]
    exact fun c _ => filter_listing_of_lt c (Nat.lt_succ_self depth)
  rw [listing_eq, List.filter_cons, decide_eq_true (Nat.le_refl depth), if_pos rfl, hbelow]

/-- One level more is one level more of every part. -/
theorem filter_listing_succ (depth levels : Nat) (n : Node) :
    (n.listing depth).filter (·.depth ≤ depth + (levels + 1)) =
      ⟨depth, n⟩ :: n.children.flatMap fun c =>
        (c.listing (depth + 1)).filter (·.depth ≤ depth + 1 + levels) := by
  have hself : depth ≤ depth + (levels + 1) := Nat.le_add_right ..
  have hdeeper : depth + (levels + 1) = depth + 1 + levels := by omega
  rw [listing_eq, List.filter_cons, decide_eq_true hself, if_pos rfl, List.filter_flatMap, hdeeper]

/-- The stack stands for the listings of all that is pending. -/
theorem visitsFrom_eq_filter (limit : Nat) (pending : List Visit) :
    visitsFrom limit pending = (pending.flatMap Visit.listing).filter (·.depth ≤ limit) := by
  fun_induction visitsFrom limit pending with
  | case1 => rfl
  | case2 v rest hdeep ih =>
      -- The parts of a node that is skipped lie deeper still.
      rw [List.flatMap_cons, List.filter_append, Visit.listing,
        filter_listing_of_lt v.node hdeep, List.nil_append, ih]
  | case3 v rest hdepth ih =>
      -- The parts go on top of the stack, where the listing has them.
      have hself : v.listing = v :: (v.node.children.map (Visit.mk (v.depth + 1))).flatMap
          Visit.listing := by
        rw [Visit.listing, listing_eq, List.flatMap_map]
        rfl
      have hwithin : v.depth ≤ limit := Nat.le_of_not_gt hdepth
      rw [ih, List.flatMap_cons, hself, List.cons_append, List.filter_cons, decide_eq_true hwithin,
        if_pos rfl, List.flatMap_append]

/-- The walk lists what the recursion lists, less what is too deep. -/
theorem visits_eq_filter (limit : Nat) (root : Node) :
    root.visits limit = (root.listing 0).filter (·.depth ≤ limit) := by
  rw [visits, visitsFrom_eq_filter, List.flatMap_singleton]
  rfl

/-- A walk that goes further down meets more nodes, all of them
deeper. -/
theorem visits_eq_filter_visits (limit more : Nat) (root : Node) :
    root.visits limit = (root.visits (limit + more)).filter (·.depth ≤ limit) := by
  rw [visits_eq_filter, visits_eq_filter, List.filter_filter]
  refine List.filter_congr fun v _ => ?_
  rw [Bool.eq_iff_iff, Bool.and_eq_true, decide_eq_true_eq, decide_eq_true_eq]
  omega

/-! ## Addresses -/

/-- The node at an address: the positions of the parts that lead to
it. -/
def at? : List Nat → Node → Option Node
  | [], n => some n
  | i :: path, n => n.children[i]?.bind (at? path)

/-- The addresses below the parts of a node, from those below each
part; the first part has the position `i`. -/
def branches : Nat → List (List (List Nat)) → List (List Nat)
  | _, [] => []
  | i, paths :: rest => paths.map (i :: ·) ++ branches (i + 1) rest

/-- The addresses that lead at most `depth` levels down, each before
those that continue it. -/
def addresses : Nat → Node → List (List Nat)
  | 0, _ => [[]]
  | depth + 1, n => [] :: branches 0 (n.children.map (addresses depth))

theorem mem_branches {i : Nat} {rows : List (List (List Nat))} {path : List Nat} :
    path ∈ branches i rows ↔
      ∃ k rest, path = (i + k) :: rest ∧ ∃ row, rows[k]? = some row ∧ rest ∈ row := by
  induction rows generalizing i with
  | nil => simp [branches]
  | cons row rows ih =>
      rw [branches, List.mem_append, List.mem_map, ih]
      constructor
      · rintro (⟨rest, hrest, rfl⟩ | ⟨k, rest, rfl, row', hrow', hrest⟩)
        · exact ⟨0, rest, rfl, row, rfl, hrest⟩
        · refine ⟨k + 1, rest, ?_, row', hrow', hrest⟩
          rw [Nat.add_assoc, Nat.add_comm 1 k]
      · rintro ⟨k, rest, rfl, row', hrow', hrest⟩
        cases k with
        | zero =>
            obtain rfl := Option.some.inj hrow'
            exact .inl ⟨rest, hrest, rfl⟩
        | succ k =>
            refine .inr ⟨k, rest, ?_, row', hrow', hrest⟩
            rw [Nat.add_assoc, Nat.add_comm 1 k]

/-- The addresses of a tree are those that lead to a node. -/
theorem mem_addresses {depth : Nat} {n : Node} {path : List Nat} :
    path ∈ n.addresses depth ↔ path.length ≤ depth ∧ (n.at? path).isSome = true := by
  induction depth generalizing n path with
  | zero =>
      rw [addresses, List.mem_singleton]
      cases path with
      | nil => simp [at?]
      | cons i path => simp
  | succ depth ih =>
      cases path with
      | nil => simp [addresses, at?]
      | cons i path =>
          rw [addresses, List.mem_cons, mem_branches, List.length_cons, Nat.succ_le_succ_iff]
          constructor
          · rintro (hnil | ⟨k, rest, hpath, row, hrow, hrest⟩)
            · cases hnil
            · obtain ⟨rfl, rfl⟩ := List.cons.inj hpath
              rw [List.getElem?_map, Option.map_eq_some_iff] at hrow
              obtain ⟨c, hc, rfl⟩ := hrow
              rw [Nat.zero_add, at?, hc]
              exact ih.mp hrest
          · rintro ⟨hlength, hsome⟩
            rw [at?] at hsome
            cases hc : n.children[i]? with
            | none => rw [hc] at hsome; cases hsome
            | some c =>
                rw [hc] at hsome
                refine .inr ⟨i, path, by rw [Nat.zero_add], c.addresses depth, ?_, ?_⟩
                · rw [List.getElem?_map, hc]
                  rfl
                · exact ih.mpr ⟨hlength, hsome⟩

theorem branches_increasing {i : Nat} {rows : List (List (List Nat))}
    (h : ∀ row ∈ rows, row.Pairwise (· < ·)) : (branches i rows).Pairwise (· < ·) := by
  induction rows generalizing i with
  | nil => exact .nil
  | cons row rows ih =>
      rw [branches, List.pairwise_append]
      refine ⟨?_, ih fun row' hrow' => h row' (List.mem_cons_of_mem _ hrow'), ?_⟩
      · refine (h row (List.mem_cons_self ..)).map _ fun p q hpq => ?_
        exact List.cons_lt_cons_iff.mpr (.inr ⟨rfl, hpq⟩)
      · intro p hp q hq
        obtain ⟨p', -, rfl⟩ := List.mem_map.mp hp
        obtain ⟨k, q', rfl, -⟩ := mem_branches.mp hq
        exact List.cons_lt_cons_iff.mpr (.inl (by omega))

/-- The addresses of a tree stand in lexicographic order. -/
theorem addresses_increasing (depth : Nat) (n : Node) :
    (n.addresses depth).Pairwise (· < ·) := by
  induction depth generalizing n with
  | zero => exact List.pairwise_singleton _ _
  | succ depth ih =>
      rw [addresses, List.pairwise_cons]
      constructor
      · intro p hp
        obtain ⟨k, rest, rfl, -⟩ := mem_branches.mp hp
        exact List.nil_lt_cons ..
      · refine branches_increasing fun row hrow => ?_
        obtain ⟨c, -, rfl⟩ := List.mem_map.mp hrow
        exact ih c

/-! ## Visits by address -/

/-- The depth of a visit and the node that it meets. -/
def seen (v : Visit) : Nat × Option Node := (v.depth, some v.node)

/-- The same of an address below a node that stands at `depth`. -/
def found (depth : Nat) (n : Node) (path : List Nat) : Nat × Option Node :=
  (depth + path.length, n.at? path)

theorem found_cons {depth i : Nat} {n c : Node} (h : n.children[i]? = some c) (path : List Nat) :
    n.found depth (i :: path) = c.found (depth + 1) path := by
  rw [found, found, at?, h, Option.bind_some, List.length_cons]
  congr 1
  omega

/-- The addresses below the parts of a node lead to what lies below
them. The induction is on the parts from position `i` on. -/
theorem map_found_branches {depth levels i : Nat} {n : Node} {cs : List Node}
    (h : n.children.drop i = cs) :
    (branches i (cs.map (addresses levels))).map (n.found depth) =
      cs.flatMap fun c => (c.addresses levels).map (c.found (depth + 1)) := by
  induction cs generalizing i with
  | nil => rfl
  | cons c cs ih =>
      have hc : n.children[i]? = some c := by
        rw [← List.head?_drop, h]
        rfl
      have hrest : n.children.drop (i + 1) = cs := by
        rw [← List.tail_drop, h]
        rfl
      rw [List.map_cons, branches, List.map_append, List.map_map, ih hrest, List.flatMap_cons]
      congr 1
      exact List.map_congr_left fun path _ => found_cons hc path

/-- A listing down to some level meets what the addresses down to this
level lead to. -/
theorem map_seen_listing (depth levels : Nat) (n : Node) :
    ((n.listing depth).filter (·.depth ≤ depth + levels)).map seen =
      (n.addresses levels).map (n.found depth) := by
  induction levels generalizing depth n with
  | zero =>
      rw [Nat.add_zero, filter_listing_self]
      rfl
  | succ levels ih =>
      have hparts : n.children.drop 0 = n.children := List.drop_zero
      rw [filter_listing_succ, List.map_cons, List.map_flatMap, addresses, List.map_cons,
        map_found_branches hparts]
      congr 1
      simp only [ih]

theorem map_seen_visits (limit : Nat) (root : Node) :
    (root.visits limit).map seen = (root.addresses limit).map (root.found 0) := by
  rw [visits_eq_filter, ← map_seen_listing 0 limit root, Nat.zero_add]

/-! ## Order -/

/-- In an increasing list the smaller of two members comes first. -/
theorem pair_sublist_of_lt {paths : List (List Nat)} (h : paths.Pairwise (· < ·))
    {p q : List Nat} (hp : p ∈ paths) (hq : q ∈ paths) (hlt : p < q) :
    [p, q].Sublist paths := by
  obtain ⟨before, after, rfl⟩ := List.append_of_mem hq
  have hbefore : p ∈ before := by
    rcases List.mem_append.mp hp with hfirst | hrest
    · exact hfirst
    · rcases List.mem_cons.mp hrest with rfl | hlater
      · exact absurd hlt (List.lt_irrefl _)
      · have hafter := (List.pairwise_cons.mp (List.pairwise_append.mp h).2.1).1 p hlater
        exact absurd (List.lt_trans hlt hafter) (List.lt_irrefl _)
  exact (List.singleton_sublist.mpr hbefore).append
    ((List.nil_sublist after).cons_cons q)

theorem append_lt_append (path : List Nat) {p q : List Nat} (h : p < q) :
    path ++ p < path ++ q := by
  induction path with
  | nil => exact h
  | cons i path ih => exact List.cons_lt_cons_iff.mpr (.inr ⟨rfl, ih⟩)

theorem at?_append (path rest : List Nat) (n : Node) :
    n.at? (path ++ rest) = (n.at? path).bind (at? rest) := by
  induction path generalizing n with
  | nil => rfl
  | cons i path ih =>
      rw [List.cons_append, at?, at?, Option.bind_assoc]
      exact Option.bind_congr fun c _ => ih c

theorem at?_concat (path : List Nat) (i : Nat) (n : Node) :
    n.at? (path ++ [i]) = (n.at? path).bind (·.children[i]?) := by
  rw [at?_append]
  refine Option.bind_congr fun c _ => ?_
  change c.children[i]?.bind some = c.children[i]?
  exact Option.bind_fun_some _

/-- What leads to a part leads to the node it belongs to as well. -/
theorem isSome_at?_of_concat {path : List Nat} {i : Nat} {n : Node}
    (h : (n.at? (path ++ [i])).isSome = true) : (n.at? path).isSome = true := by
  rw [at?_concat] at h
  exact Option.isSome_of_isSome_bind h

/-- Where there is a part, there are the parts before it. -/
theorem isSome_at?_of_lt {path : List Nat} {i j : Nat} {n : Node} (hij : i < j)
    (h : (n.at? (path ++ [j])).isSome = true) : (n.at? (path ++ [i])).isSome = true := by
  rw [at?_concat] at h ⊢
  cases hat : n.at? path with
  | none => rw [hat] at h; cases h
  | some c =>
      rw [hat] at h
      have hlength : j < c.children.length := by simpa using h
      simpa using Nat.lt_trans hij hlength

/-- Addresses that go over a tree down to a bound, once each: a part
behind the node it belongs to and before the parts that follow it. -/
structure IsPreorder (root : Node) (limit : Nat) (paths : List (List Nat)) : Prop where
  mem_iff (path : List Nat) :
    path ∈ paths ↔ path.length ≤ limit ∧ (root.at? path).isSome = true
  once : paths.Nodup
  behind_node (path : List Nat) (i : Nat) (h : path ++ [i] ∈ paths) :
    [path, path ++ [i]].Sublist paths
  before_siblings (path : List Nat) (i j : Nat) (hij : i < j) (h : path ++ [j] ∈ paths) :
    [path ++ [i], path ++ [j]].Sublist paths

theorem isPreorder_addresses (root : Node) (limit : Nat) :
    root.IsPreorder limit (root.addresses limit) where
  mem_iff _ := mem_addresses
  once := by
    refine (addresses_increasing limit root).imp fun {p q} hlt heq => ?_
    rw [heq] at hlt
    exact List.lt_irrefl q hlt
  behind_node path i h := by
    obtain ⟨hlength, hsome⟩ := mem_addresses.mp h
    rw [List.length_append] at hlength
    have hnode : path ∈ root.addresses limit :=
      mem_addresses.mpr ⟨Nat.le_of_add_right_le hlength, isSome_at?_of_concat hsome⟩
    have hlt : path < path ++ [i] := by
      simpa using append_lt_append path (List.nil_lt_cons i [])
    exact pair_sublist_of_lt (addresses_increasing limit root) hnode h hlt
  before_siblings path i j hij h := by
    obtain ⟨hlength, hsome⟩ := mem_addresses.mp h
    rw [List.length_append] at hlength
    have hfirst : path ++ [i] ∈ root.addresses limit :=
      mem_addresses.mpr ⟨by rw [List.length_append]; exact hlength, isSome_at?_of_lt hij hsome⟩
    have hlt : path ++ [i] < path ++ [j] :=
      append_lt_append path (List.cons_lt_cons_iff.mpr (.inl hij))
    exact pair_sublist_of_lt (addresses_increasing limit root) hfirst h hlt

/-- **The walk is the bounded preorder of the tree.** It lists what the
recursion over the tree lists, in the same order and with the same
depths, less the nodes below the bound. Every address within the bound
is visited exactly once, behind the node it belongs to and before the
parts that follow it, and a bound that is raised only lets deeper nodes
in. -/
theorem visits_bounded_preorder (root : Node) (limit : Nat) :
    root.visits limit = (root.listing 0).filter (·.depth ≤ limit)
      ∧ (∃ paths, root.IsPreorder limit paths
        ∧ (root.visits limit).map (fun v => (v.depth, some v.node))
          = paths.map fun path => (path.length, root.at? path))
      ∧ ∀ more, root.visits limit = (root.visits (limit + more)).filter (·.depth ≤ limit) := by
  refine ⟨visits_eq_filter limit root, ⟨_, isPreorder_addresses root limit, ?_⟩,
    fun more => visits_eq_filter_visits limit more root⟩
  rw [show (fun v : Visit => (v.depth, some v.node)) = seen from rfl, map_seen_visits]
  exact List.map_congr_left fun path _ => by rw [found, Nat.zero_add]

end Node

end ScriptScout
