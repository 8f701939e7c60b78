import Mathlib.Data.List.Flatten
import Mathlib.Data.List.Nodup
import Mathlib.Data.List.Perm.Basic
import ScriptScout.Analysis.Run
import ScriptScout.Proofs.WalkOrder

/-!
# The order of a walk

`Node.preorder` lists the nodes of a tree down to a depth. They are
those of `Node.listing`, the depths aside and cut off at this one
(`map_node_listing`), and so the walk meets them in this order
(`map_node_visits`).

What lies below a node stands right behind it (`exists_subtree`), and
one level further down the listing has the same nodes and the parts of
all of them (`preorder_succ_perm`).

A `Place` is a node together with whether it stands to the left of an
assignment, which the node itself cannot tell. `Place.within` lists the
places of a tree in the same order, and each of them comes after the
place that it is a part of (`exists_part_before`). Where no two nodes
of a kind share a span (`Node.SpansApart`), the span tells the place.
-/

namespace ScriptScout

namespace Node

/-- A node and all that lies at most `depth` levels below it, each node
before its parts. -/
def preorder : Nat → Node → List Node
  | 0, n => [n]
  | depth + 1, n => n :: n.children.flatMap (preorder depth)

/-- A listing cut off some levels down has these nodes. -/
theorem map_node_listing (depth levels : Nat) (n : Node) :
    ((n.listing depth).filter (·.depth ≤ depth + levels)).map (·.node) = n.preorder levels := by
  induction levels generalizing depth n with
  | zero =>
      rw [Nat.add_zero, filter_listing_self]
      rfl
  | succ levels ih =>
      rw [filter_listing_succ, List.map_cons, List.map_flatMap, preorder]
      congr 1
      simp only [ih]

/-- The walk meets the nodes in this order. -/
theorem map_node_visits (limit : Nat) (root : Node) :
    (root.visits limit).map (·.node) = root.preorder limit := by
  rw [visits_eq_filter, ← map_node_listing 0 limit root, Nat.zero_add]

end Node

theorem Analysis.visited_eq_preorder (settings : Settings) (root : Node) :
    visited settings root = root.preorder settings.analysis.effectiveDepth :=
  Node.map_node_visits _ root

/-! ## Subtrees -/

/-- What stands in the lists that several things give stands in the
list of one of them, between what the ones before and after it give. -/
theorem exists_split_of_flatMap {α β : Type} {f : α → List β} {xs : List α}
    {before after : List β} {b : β} (h : xs.flatMap f = before ++ b :: after) :
    ∃ earlier x later pre post, xs = earlier ++ x :: later ∧ f x = pre ++ b :: post
      ∧ before = earlier.flatMap f ++ pre ∧ after = post ++ later.flatMap f := by
  induction xs generalizing before with
  | nil => simp at h
  | cons x xs ih =>
      rw [List.flatMap_cons] at h
      have later {rest : List β} (hrest : xs.flatMap f = rest ++ b :: after)
          (hbefore : before = f x ++ rest) : ∃ earlier y later pre post,
            x :: xs = earlier ++ y :: later ∧ f y = pre ++ b :: post
              ∧ before = earlier.flatMap f ++ pre ∧ after = post ++ later.flatMap f := by
        obtain ⟨earlier, y, later, pre, post, rfl, hy, rfl, hafter⟩ := ih hrest
        refine ⟨x :: earlier, y, later, pre, post, rfl, hy, ?_, hafter⟩
        rw [hbefore, List.flatMap_cons, List.append_assoc]
      rcases List.append_eq_append_iff.mp h with ⟨rest, hbefore, hrest⟩ | ⟨post, hfirst, hpost⟩
      · exact later hrest hbefore
      · cases post with
        | nil =>
            have hrest : xs.flatMap f = [] ++ b :: after := hpost.symm
            have hbefore : before = f x ++ [] := by rw [hfirst, List.append_nil, List.append_nil]
            exact later hrest hbefore
        | cons c post =>
            obtain ⟨rfl, hafter⟩ := List.cons.inj hpost
            exact ⟨[], x, xs, before, post, rfl, hfirst, rfl, hafter⟩

namespace Node

theorem preorder_eq_cons (depth : Nat) (n : Node) : ∃ below, n.preorder depth = n :: below := by
  cases depth with
  | zero => exact ⟨[], rfl⟩
  | succ depth => exact ⟨n.children.flatMap (preorder depth), rfl⟩

theorem mem_preorder_self (depth : Nat) (n : Node) : n ∈ n.preorder depth := by
  obtain ⟨below, hbelow⟩ := n.preorder_eq_cons depth
  rw [hbelow]
  exact List.mem_cons_self ..

theorem preorder_sublist_succ (depth : Nat) (n : Node) :
    (n.preorder depth).Sublist (n.preorder (depth + 1)) := by
  induction depth generalizing n with
  | zero => exact (List.nil_sublist _).cons_cons n
  | succ depth ih => exact (List.Sublist.flatMap_right _ fun c _ => ih c).cons_cons n

/-- One level further down stand the same nodes, and the parts of all
of them. -/
theorem preorder_succ_perm (depth : Nat) (n : Node) :
    (n.preorder (depth + 1)).Perm (n :: (n.preorder depth).flatMap children) := by
  induction depth generalizing n with
  | zero => simp [preorder]
  | succ depth ih =>
      rw [preorder, preorder, List.flatMap_cons, List.flatMap_assoc]
      have hparts : (n.children.flatMap (preorder (depth + 1))).Perm
          (n.children.flatMap fun c => c :: (c.preorder depth).flatMap children) :=
        List.Perm.flatMap_left _ fun c _ => ih c
      have hmoved := List.map_append_flatMap_perm n.children id
        fun c => (c.preorder depth).flatMap children
      rw [List.map_id] at hmoved
      exact (hparts.trans hmoved.symm).cons n

theorem mem_preorder_succ {depth : Nat} {root n : Node} (h : n ∈ root.preorder depth) :
    n ∈ root.preorder (depth + 1) :=
  (preorder_sublist_succ depth root).subset h

theorem child_mem_preorder_succ {depth : Nat} {root n c : Node} (hn : n ∈ root.preorder depth)
    (hc : c ∈ n.children) : c ∈ root.preorder (depth + 1) := by
  refine (preorder_succ_perm depth root).mem_iff.mpr (List.mem_cons_of_mem _ ?_)
  exact List.mem_flatMap.mpr ⟨n, hn, hc⟩

/-- What lies below a node stands right behind it. In the listing that
goes one level further down it does so as well, and around it stands
what stood around it before, and more. -/
theorem exists_subtree {depth : Nat} {root n : Node} {before after : List Node}
    (h : root.preorder depth = before ++ n :: after) :
    ∃ below post before' post', n :: after = n.preorder below ++ post
      ∧ root.preorder (depth + 1) = before' ++ n.preorder (below + 1) ++ post'
      ∧ before.Sublist before' ∧ post.Sublist post' := by
  induction depth generalizing root before after with
  | zero =>
      obtain ⟨rfl, hroot⟩ | ⟨hroot, hnil⟩ := List.cons_eq_append_iff.mp h
      · obtain ⟨rfl, rfl⟩ := List.cons.inj hroot
        exact ⟨0, [], [], [], rfl, by simp, .refl _, .refl _⟩
      · simp at hnil
  | succ depth ih =>
      cases before with
      | nil =>
          obtain ⟨rfl, rfl⟩ := List.cons.inj h
          exact ⟨depth + 1, [], [], [], by simp [preorder], by simp, .refl _, .refl _⟩
      | cons first before =>
          obtain ⟨rfl, hbelow⟩ := List.cons.inj h
          obtain ⟨earlier, c, later, pre, post, hchildren, hc, rfl, rfl⟩ :=
            exists_split_of_flatMap hbelow
          obtain ⟨below, rest, pre', rest', hrest, hc', hpre, hpost⟩ := ih hc
          refine ⟨below, rest ++ later.flatMap (preorder depth),
            root :: (earlier.flatMap (preorder (depth + 1)) ++ pre'),
            rest' ++ later.flatMap (preorder (depth + 1)), ?_, ?_, ?_, ?_⟩
          · rw [← List.append_assoc, ← hrest, List.cons_append]
          · rw [preorder, hchildren, List.flatMap_append, List.flatMap_cons, hc']
            simp only [List.append_assoc, List.cons_append]
          · exact ((List.Sublist.flatMap_right _
              fun c _ => preorder_sublist_succ depth c).append hpre).cons_cons root
          · exact hpost.append (List.Sublist.flatMap_right _
              fun c _ => preorder_sublist_succ depth c)

/-- The same of the node at an index. -/
theorem exists_subtree_at {depth i : Nat} {root n : Node}
    (h : (root.preorder depth)[i]? = some n) :
    ∃ before below post before' post', before.length = i
      ∧ root.preorder depth = before ++ n.preorder below ++ post
      ∧ root.preorder (depth + 1) = before' ++ n.preorder (below + 1) ++ post'
      ∧ before.Sublist before' ∧ post.Sublist post' := by
  obtain ⟨hlt, rfl⟩ := List.getElem?_eq_some_iff.mp h
  have hsplit : root.preorder depth = (root.preorder depth).take i
      ++ (root.preorder depth)[i] :: (root.preorder depth).drop (i + 1) := by
    rw [← List.drop_eq_getElem_cons hlt, List.take_append_drop]
  obtain ⟨below, post, before', post', hafter, hnext, hbefore, hpost⟩ := exists_subtree hsplit
  refine ⟨(root.preorder depth).take i, below, post, before', post',
    List.length_take_of_le (Nat.le_of_lt hlt), ?_, hnext, hbefore, hpost⟩
  rw [List.append_assoc, ← hafter]
  exact hsplit

end Node

/-! ## Places -/

/-- A node of a tree, and whether an assignment is made to it. -/
structure Place where
  node : Node
  assigned : Bool

namespace Place

/-- The root of a tree: nothing is assigned to it. -/
def root (n : Node) : Place := ⟨n, false⟩

/-- The places of a node's parts. -/
def parts (p : Place) : List Place :=
  match p.node with
  | .assignment _ _ target value => [⟨target, true⟩, ⟨value, false⟩]
  | n => n.children.map root

/-- A place and all that lies at most `depth` levels below it, each
place before its parts. -/
def within : Nat → Place → List Place
  | 0, p => [p]
  | depth + 1, p => p :: p.parts.flatMap (within depth)

/-- What is assigned to is the target of the assignment it is a part
of. -/
theorem exists_assignment_of_part {p q : Place} (hq : q ∈ p.parts) (h : q.assigned = true) :
    ∃ span operator value, p.node = .assignment span operator q.node value := by
  obtain ⟨n, assigned⟩ := p
  have hother : q ∉ n.children.map root := by
    intro hroot
    obtain ⟨m, -, rfl⟩ := List.mem_map.mp hroot
    cases h
  cases n with
  | assignment span operator target value =>
      rcases List.mem_cons.mp hq with rfl | hvalue
      · exact ⟨span, operator, value, rfl⟩
      · obtain rfl := List.mem_singleton.mp hvalue
        cases h
  | _ => exact absurd hq hother

theorem map_node_parts (p : Place) : p.parts.map (·.node) = p.node.children := by
  obtain ⟨n, assigned⟩ := p
  cases n with
  | assignment => rfl
  | _ => simp [parts, root, Function.comp_def]

theorem map_node_within (depth : Nat) (p : Place) :
    (p.within depth).map (·.node) = p.node.preorder depth := by
  induction depth generalizing p with
  | zero => rfl
  | succ depth ih =>
      rw [within, Node.preorder, List.map_cons, List.map_flatMap, ← map_node_parts,
        List.flatMap_map]
      simp only [ih]

theorem map_node_within_root (depth : Nat) (n : Node) :
    ((root n).within depth).map (·.node) = n.preorder depth :=
  map_node_within depth (root n)

theorem mem_within_self (depth : Nat) (p : Place) : p ∈ p.within depth := by
  cases depth with
  | zero => exact List.mem_singleton.mpr rfl
  | succ => exact List.mem_cons_self ..

/-- One level further down stand the same places, and the parts of all
of them. -/
theorem part_mem_within_succ {depth : Nat} {p q r : Place} (hq : q ∈ p.within depth)
    (hr : r ∈ q.parts) : r ∈ p.within (depth + 1) := by
  induction depth generalizing p with
  | zero =>
      obtain rfl := List.mem_singleton.mp hq
      exact List.mem_cons_of_mem _ (List.mem_flatMap.mpr ⟨r, hr, mem_within_self 0 r⟩)
  | succ depth ih =>
      refine List.mem_cons_of_mem _ (List.mem_flatMap.mpr ?_)
      rcases List.mem_cons.mp hq with rfl | hbelow
      · exact ⟨r, hr, mem_within_self _ r⟩
      · obtain ⟨part, hpart, hq'⟩ := List.mem_flatMap.mp hbelow
        exact ⟨part, hpart, ih hq'⟩

theorem mem_within_succ {depth : Nat} {p q : Place} (hq : q ∈ p.within depth) :
    q ∈ p.within (depth + 1) := by
  induction depth generalizing p with
  | zero =>
      obtain rfl := List.mem_singleton.mp hq
      exact mem_within_self _ q
  | succ depth ih =>
      rcases List.mem_cons.mp hq with rfl | hbelow
      · exact mem_within_self _ q
      · obtain ⟨part, hpart, hq'⟩ := List.mem_flatMap.mp hbelow
        exact List.mem_cons_of_mem _ (List.mem_flatMap.mpr ⟨part, hpart, ih hq'⟩)

/-- Every place but the first comes after the one it is a part of. -/
theorem exists_part_before {depth : Nat} {p q : Place} {before after : List Place}
    (h : p.within depth = before ++ q :: after) :
    q = p ∨ ∃ r ∈ before, q ∈ r.parts := by
  induction depth generalizing p before after with
  | zero =>
      have hq : q ∈ [p] := by
        rw [← within, h]
        exact List.mem_append_right _ (List.mem_cons_self ..)
      exact .inl (List.mem_singleton.mp hq)
  | succ depth ih =>
      cases before with
      | nil => exact .inl (List.cons.inj h).1.symm
      | cons first before =>
          obtain ⟨rfl, hbelow⟩ := List.cons.inj h
          obtain ⟨earlier, part, later, pre, post, hparts, hsplit, rfl, -⟩ :=
            exists_split_of_flatMap hbelow
          rcases ih hsplit with rfl | ⟨r, hr, hq⟩
          · have hpart : q ∈ p.parts :=
              hparts ▸ List.mem_append_right _ (List.mem_cons_self ..)
            exact .inr ⟨p, List.mem_cons_self .., hpart⟩
          · exact .inr ⟨r, List.mem_cons_of_mem _ (List.mem_append_right _ hr), hq⟩

end Place

/-! ## Nodes with spans of their own -/

namespace Node

section

variable {p : Node → Bool} {root : Node}

/-- No two nodes of a kind share a span, wherever in the tree they
stand. -/
def SpansApart (p : Node → Bool) (root : Node) : Prop :=
  ∀ depth, (((root.preorder depth).filter p).map span).Nodup

theorem SpansApart.places (h : SpansApart p root) (depth : Nat) :
    ((((Place.root root).within depth).filter (p ·.node)).map (·.node.span)).Nodup := by
  have hnd := h depth
  rw [← Place.map_node_within_root, List.filter_map, List.map_map] at hnd
  exact hnd

theorem SpansApart.place_eq_of_span (h : SpansApart p root) {depth : Nat} {q r : Place}
    (hq : q ∈ (Place.root root).within depth) (hr : r ∈ (Place.root root).within depth)
    (hpq : p q.node = true) (hpr : p r.node = true) (hspan : q.node.span = r.node.span) :
    q = r :=
  List.inj_on_of_nodup_map (h.places depth) (List.mem_filter.mpr ⟨hq, hpq⟩)
    (List.mem_filter.mpr ⟨hr, hpr⟩) hspan

theorem SpansApart.eq_of_span (h : SpansApart p root) {depth : Nat} {n m : Node}
    (hn : n ∈ root.preorder depth) (hm : m ∈ root.preorder depth) (hpn : p n = true)
    (hpm : p m = true) (hspan : n.span = m.span) : n = m := by
  rw [← Place.map_node_within_root] at hn hm
  obtain ⟨q, hq, rfl⟩ := List.mem_map.mp hn
  obtain ⟨r, hr, rfl⟩ := List.mem_map.mp hm
  rw [h.place_eq_of_span hq hr hpn hpm hspan]

/-- No node shares its span with one that comes before it. -/
theorem SpansApart.span_ne_of_before (h : SpansApart p root) {limit : Nat} {q r : Place}
    {before after : List Place} (hplaces : (Place.root root).within limit = before ++ q :: after)
    (hr : r ∈ before) (hpq : p q.node = true) (hpr : p r.node = true) :
    r.node.span ≠ q.node.span := by
  have hnd := h.places limit
  rw [hplaces, List.filter_append, List.map_append, List.nodup_append] at hnd
  refine hnd.2.2 _ (List.mem_map_of_mem (List.mem_filter.mpr ⟨hr, hpr⟩)) _
    (List.mem_map_of_mem (List.mem_filter.mpr ⟨List.mem_cons_self .., hpq⟩))

end

end Node

end ScriptScout
