import ScriptScout.Proofs.Preorder
import ScriptScout.Proofs.Shapes
import ScriptScout.Proofs.Share

/-!
# Events are found exactly

Whether a part of the location is read or written depends on where it
stands, and the detector of events knows this only from its memory: an
assignment that moves the page marks its target before the walk comes
to it. `Hooks` says the same without memory, of a place in the tree.

Where calls, assignments and members have spans of their own, the two
agree. The invariant is `Remembers`: after the places `before`, only
spans of sites among them are marked as events, and the marks of
location writes are those of the targets that assignments among them
move the page by. A read is held back exactly if an assignment is made
to it (`isMarked_locationWrites`): its assignment comes before it, and
no other target shares its span, not even one that lies just below the
bound and is never visited.
-/

namespace ScriptScout

namespace EventHook

/-! ## Hooks by place -/

/-- The nodes at which the detector may mark a span. -/
def isSite : Node → Bool
  | .call .. | .assignment .. | .member .. => true
  | _ => false

/-- The events of a tree, by place. -/
inductive Hooks : Place → EventKind → Prop
  | call {span : Span} {callee : Node} {arguments : List Node} {assigned : Bool}
      {kind : EventKind} :
      Calls callee kind → Hooks ⟨.call span callee arguments, assigned⟩ kind
  | write {span : Span} {operator : String} {target value : Node} {assigned : Bool}
      {kind : EventKind} :
      Writes target kind → Hooks ⟨.assignment span operator target value, assigned⟩ kind
  | read {n : Node} {name : String} :
      name ∈ ["href", "hash", "pathname", "search", "replace", "assign"] →
      n.isMemberOf "location" name = true → Hooks ⟨n, false⟩ .location

/-- The event that stands at a place, if there is one. -/
def hook? (p : Place) : Option EventKind :=
  match p.node with
  | .call _ callee _ => callKind? callee
  | .assignment _ _ target _ => assignmentKind? target
  | n => if isLocationRead n && !p.assigned then some .location else none

theorem hook?_of_member {span : Span} {receiver name : Node} {computed assigned : Bool} :
    hook? ⟨.member span receiver name computed, assigned⟩ =
      if isLocationRead (.member span receiver name computed) && !assigned then
        some .location else none := rfl

theorem hook?_iff {p : Place} {kind : EventKind} : hook? p = some kind ↔ Hooks p kind := by
  obtain ⟨n, assigned⟩ := p
  constructor
  · intro h
    cases n with
    | call => exact .call (callKind?_iff.mp h)
    | assignment => exact .write (assignmentKind?_iff.mp h)
    | member span receiver name computed =>
        rw [hook?_of_member] at h
        split_ifs at h with hread
        obtain rfl := Option.some.inj h
        simp only [Bool.and_eq_true, Bool.not_eq_true'] at hread
        obtain ⟨hlocation, rfl⟩ := hread
        obtain ⟨part, hpart, hn⟩ := isLocationRead_iff.mp hlocation
        exact .read hpart hn
    | _ => cases h
  · intro h
    cases h with
    | call hcall => exact callKind?_iff.mpr hcall
    | write hwrite => exact assignmentKind?_iff.mpr hwrite
    | read hname hn =>
        have hread := isLocationRead_iff.mpr ⟨_, hname, hn⟩
        obtain ⟨span, receiver, property, rfl⟩ :=
          Node.exists_eq_member (Node.memberName?_of_isMemberOf hn)
        rw [hook?_of_member, hread]
        rfl

theorem isSite_of_memberName? {n : Node} {name : String} (h : n.memberName? = some name) :
    isSite n = true := by
  obtain ⟨span, receiver, property, rfl⟩ := Node.exists_eq_member h
  rfl

theorem isSite_of_hooks {p : Place} {kind : EventKind} (h : Hooks p kind) :
    isSite p.node = true := by
  cases h with
  | call => rfl
  | write => rfl
  | read _ hn => exact isSite_of_memberName? (Node.memberName?_of_isMemberOf hn)

theorem MovesPage.isSite {n : Node} (h : MovesPage n) : isSite n = true := by
  obtain ⟨name, hname⟩ := h.exists_memberName?
  exact isSite_of_memberName? hname

theorem Writes.isSite {target : Node} {kind : EventKind} (h : Writes target kind) :
    isSite target = true := by
  cases h with
  | onMessage hname => exact isSite_of_memberName? hname
  | onHashChange hname => exact isSite_of_memberName? hname
  | location _ _ hmoves => exact hmoves.isSite

/-! ## One look -/

/-- An assignment that moves the page, and its target. -/
inductive SetsLocation : Node → Node → Prop
  | assignment {span : Span} {operator : String} {target value : Node} :
      Writes target .location → SetsLocation (.assignment span operator target value) target

theorem SetsLocation.mem_parts {p : Place} {target : Node} (h : SetsLocation p.node target) :
    ⟨target, true⟩ ∈ p.parts := by
  obtain ⟨n, assigned⟩ := p
  cases h
  exact List.mem_cons_self ..

theorem SetsLocation.isSite_target {n target : Node} (h : SetsLocation n target) :
    isSite target = true := by
  obtain ⟨hwrites⟩ := h
  exact hwrites.isSite

theorem SetsLocation.isSite_self {n target : Node} (h : SetsLocation n target) :
    isSite n = true := by
  cases h
  rfl

theorem SetsLocation.target_eq {n target other : Node} (h : SetsLocation n target)
    (h' : SetsLocation n other) : other = target := by
  cases h
  cases h'
  rfl

/-- What a look may leave behind: nothing new, a mark on its site, or
that and a mark on the target by which the page is moved. -/
inductive Leaves (n : Node) (s : State) : State → Prop
  | nothing (hnone : ∀ target, ¬SetsLocation n target) : Leaves n s s
  | mark (hsite : isSite n = true) (hnone : ∀ target, ¬SetsLocation n target) :
      Leaves n s (s.mark .events n.span)
  | write {target : Node} (hset : SetsLocation n target) :
      Leaves n s ((s.mark .events n.span).mark .locationWrites target.span)

theorem leaves_step (scene : Scene) {n : Node} {s : State}
    (hfree : isSite n = true → s.isMarked .events n.span = false) :
    Leaves n s (step scene n s).1 := by
  cases n with
  | call span callee arguments =>
      have hspan : s.isMarked .events span = false := hfree rfl
      simp only [step, hspan, Bool.false_eq_true, if_false]
      exact .mark rfl (by rintro target ⟨⟩)
  | assignment span operator target value =>
      have hspan : s.isMarked .events span = false := hfree rfl
      simp only [step_assignment, hspan, Bool.false_eq_true, if_false]
      split
      · next hkind => exact .write (.assignment (assignmentKind?_iff.mp hkind))
      · next hkind =>
          refine .mark rfl ?_
          rintro _ ⟨hwrites⟩
          exact hkind (assignmentKind?_iff.mpr hwrites)
  | member span receiver property computed =>
      simp only [step]
      split
      · exact .mark rfl (by rintro target ⟨⟩)
      · exact .nothing (by rintro target ⟨⟩)
  | _ => exact .nothing (by rintro target ⟨⟩)

/-- A look reports the event that stands at its place, if its site is
free and the location writes are those that have been made to it. -/
theorem step_reports (scene : Scene) {p : Place} {s : State}
    (hfree : isSite p.node = true → s.isMarked .events p.node.span = false)
    (hwritten : isLocationRead p.node = true →
      s.isMarked .locationWrites p.node.span = p.assigned) :
    (step scene p.node s).2 = ((hook? p).map (report scene p.node)).toList := by
  obtain ⟨n, assigned⟩ := p
  cases n with
  | call span callee arguments =>
      have hspan : s.isMarked .events span = false := hfree rfl
      simp only [step, hspan, Bool.false_eq_true, if_false, hook?]
  | assignment span operator target value =>
      have hspan : s.isMarked .events span = false := hfree rfl
      simp only [step_assignment, hspan, Bool.false_eq_true, if_false, hook?]
  | member span receiver property computed =>
      have hspan : s.isMarked .events span = false := hfree rfl
      rw [hook?_of_member]
      cases hread : isLocationRead (.member span receiver property computed) with
      | false => simp only [step, hread, Bool.false_and, Bool.false_eq_true, if_false]; rfl
      | true =>
          have hwrites : s.isMarked .locationWrites span = assigned := hwritten hread
          simp only [step, hread, hspan, hwrites, Bool.true_and, Bool.not_false, Bool.and_true]
          cases assigned <;> rfl
  | _ => rfl

/-! ## What a run remembers -/

/-- The marks that the places visited so far have left. -/
structure Remembers (before : List Place) (s : State) : Prop where
  events : ∀ y, s.isMarked .events y = true →
    ∃ q ∈ before, isSite q.node = true ∧ q.node.span = y
  locationWrites : ∀ y, s.isMarked .locationWrites y = true ↔
    ∃ q ∈ before, ∃ target, SetsLocation q.node target ∧ target.span = y

theorem remembers_empty : Remembers [] {} where
  events y hy := by
    rw [State.isMarked_empty] at hy
    cases hy
  locationWrites y := by simp [State.isMarked_empty]

theorem Remembers.append {before : List Place} {p : Place} {s t : State}
    (h : Remembers before s)
    (hevents : ∀ y, t.isMarked .events y = true →
      s.isMarked .events y = true ∨ isSite p.node = true ∧ p.node.span = y)
    (hwrites : ∀ y, t.isMarked .locationWrites y = true ↔
      s.isMarked .locationWrites y = true
        ∨ ∃ target, SetsLocation p.node target ∧ target.span = y) :
    Remembers (before ++ [p]) t where
  events y hy := by
    rcases hevents y hy with hold | hnew
    · obtain ⟨q, hq, hsite⟩ := h.events y hold
      exact ⟨q, List.mem_append_left _ hq, hsite⟩
    · exact ⟨p, List.mem_append_right _ (List.mem_singleton.mpr rfl), hnew⟩
  locationWrites y := by
    rw [hwrites, h.locationWrites]
    simp only [List.mem_append, List.mem_singleton, or_and_right, exists_or, exists_eq_left]

theorem Leaves.remembers {before : List Place} {p : Place} {s t : State}
    (h : Leaves p.node s t) (hs : Remembers before s) : Remembers (before ++ [p]) t := by
  have hsites (y : Span) (hsite : isSite p.node = true)
      (hy : (s.mark .events p.node.span).isMarked .events y = true) :
      s.isMarked .events y = true ∨ isSite p.node = true ∧ p.node.span = y := by
    rw [State.isMarked_mark_self, Bool.or_eq_true, beq_iff_eq] at hy
    exact hy.symm.imp_right fun hspan => ⟨hsite, hspan⟩
  have hwrites (y : Span) : (s.mark .events p.node.span).isMarked .locationWrites y =
      s.isMarked .locationWrites y := State.isMarked_mark_of_ne (by decide) ..
  cases h with
  | nothing hnone =>
      refine hs.append (fun y hy => .inl hy) fun y => ?_
      simp only [hnone, false_and, exists_false, or_false]
  | mark hsite hnone =>
      refine hs.append (fun y hy => hsites y hsite hy) fun y => ?_
      simp only [hwrites, hnone, false_and, exists_false, or_false]
  | @write target hset =>
      refine hs.append (fun y hy => ?_) fun y => ?_
      · rw [State.isMarked_mark_of_ne (by decide)] at hy
        exact hsites y hset.isSite_self hy
      · rw [State.isMarked_mark_self, Bool.or_eq_true, beq_iff_eq, hwrites, or_comm]
        refine or_congr_right ⟨fun hspan => ⟨target, hset, hspan⟩, ?_⟩
        rintro ⟨other, hother, rfl⟩
        rw [hset.target_eq hother]

section

variable {root : Node} {limit : Nat} {before after : List Place} {p : Place} {s : State}

/-- No site is marked before the walk comes to it. -/
theorem Remembers.isMarked_events (hs : Remembers before s) (hapart : Node.SpansApart isSite root)
    (hplaces : (Place.root root).within limit = before ++ p :: after)
    (hsite : isSite p.node = true) : s.isMarked .events p.node.span = false := by
  rw [← Bool.not_eq_true]
  intro hmarked
  obtain ⟨q, hq, hsiteq, hspan⟩ := hs.events _ hmarked
  exact hapart.span_ne_of_before hplaces hq hsite hsiteq hspan

/-- A part of the location is marked as written exactly if it stands to
the left of an assignment. -/
theorem Remembers.isMarked_locationWrites (hs : Remembers before s)
    (hapart : Node.SpansApart isSite root)
    (hplaces : (Place.root root).within limit = before ++ p :: after)
    (hread : isLocationRead p.node = true) :
    s.isMarked .locationWrites p.node.span = p.assigned := by
  have hmem {q : Place} (hq : q ∈ before ++ p :: after) : q ∈ (Place.root root).within limit :=
    hplaces ▸ hq
  have hp : p ∈ (Place.root root).within limit :=
    hmem (List.mem_append_right _ (List.mem_cons_self ..))
  have hwrites := writes_of_isLocationRead hread
  rw [Bool.eq_iff_iff, hs.locationWrites]
  constructor
  · rintro ⟨q, hq, target, hset, hspan⟩
    -- the target may lie one level below the bound
    have htarget : ⟨target, true⟩ ∈ (Place.root root).within (limit + 1) :=
      Place.part_mem_within_succ (hmem (List.mem_append_left _ hq)) hset.mem_parts
    have heq := hapart.place_eq_of_span htarget (Place.mem_within_succ hp) hset.isSite_target
      hwrites.isSite hspan
    rw [← heq]
  · intro hassigned
    rcases Place.exists_part_before hplaces with rfl | ⟨q, hq, hpart⟩
    · cases hassigned
    · obtain ⟨span, operator, value, hq'⟩ := Place.exists_assignment_of_part hpart hassigned
      exact ⟨q, hq, p.node, hq' ▸ .assignment hwrites, rfl⟩

/-- The look at the next place: it reports the event that stands there,
and what is remembered covers the place as well. -/
theorem Remembers.step (scene : Scene) (hs : Remembers before s)
    (hapart : Node.SpansApart isSite root)
    (hplaces : (Place.root root).within limit = before ++ p :: after) :
    (EventHook.step scene p.node s).2 = ((hook? p).map (report scene p.node)).toList
      ∧ Remembers (before ++ [p]) (EventHook.step scene p.node s).1 := by
  have hfree := hs.isMarked_events hapart hplaces
  exact ⟨step_reports scene hfree (hs.isMarked_locationWrites hapart hplaces),
    (leaves_step scene hfree).remembers hs⟩

theorem scan_places (scene : Scene) (hapart : Node.SpansApart isSite root) {rest : List Place}
    (hplaces : (Place.root root).within limit = before ++ rest) (hs : Remembers before s) :
    (Analysis.scan (EventHook.step scene) (rest.map (·.node)) s).2 =
      rest.filterMap fun p => (hook? p).map (report scene p.node) := by
  induction rest generalizing before s with
  | nil => rfl
  | cons p rest ih =>
      obtain ⟨hreport, hnext⟩ := hs.step scene hapart hplaces
      rw [List.append_cons] at hplaces
      rw [List.map_cons, Analysis.scan_cons, ih hplaces hnext, hreport, List.filterMap_cons]
      cases (hook? p).map (report scene p.node) <;> rfl

end

end EventHook

/-! ## Runs -/

namespace Analysis

open EventHook

theorem analyzeTree_events {settings : Settings} (hon : settings.modules.events = true)
    (source : String) {root : Node} (hapart : Node.SpansApart isSite root) :
    (analyzeTree settings source root).events =
      ((Place.root root).within settings.analysis.effectiveDepth).filterMap fun p =>
        (hook? p).map (report (Scene.of source settings) p.node) := by
  have hrun : (analyzeTree settings source root).events =
      (scan (EventHook.step (Scene.of source settings)) (visited settings root) {}).2 :=
    analyzeTree_of_enabled (d := .events) hon source root
  rw [hrun, visited_eq_preorder, ← Place.map_node_within_root]
  exact scan_places _ hapart rfl remembers_empty

/-- A target by which the page is moved is no event itself. -/
theorem span_ne_of_movesPage {root : Node} (hapart : Node.SpansApart isSite root) {limit : Nat}
    {span : Span} {operator : String} {target value : Node}
    (hn : .assignment span operator target value ∈ root.preorder limit)
    (hmoves : MovesPage target) {p : Place} (hp : p ∈ (Place.root root).within limit)
    {kind : EventKind} (hhook : Hooks p kind) : p.node.span ≠ target.span := by
  intro hspan
  rw [← Place.map_node_within_root] at hn
  obtain ⟨⟨n, assigned⟩, hq, rfl⟩ := List.mem_map.mp hn
  have htarget : ⟨target, true⟩ ∈ (Place.root root).within (limit + 1) :=
    Place.part_mem_within_succ hq (List.mem_cons_self ..)
  obtain rfl := hapart.place_eq_of_span (Place.mem_within_succ hp) htarget (isSite_of_hooks hhook)
    hmoves.isSite hspan
  obtain ⟨name, hname⟩ := hmoves.exists_memberName?
  obtain ⟨_, _, _, rfl⟩ := Node.exists_eq_member hname
  cases hhook

/-- **Events are found exactly.** Where no two calls, assignments or
members of a tree share a span, a run finds, in the order of the walk,
one event for each visited place that is one, and nothing else: a call
that listens or opens a window, an assignment to a handler or to the
location, and a part of the location that no assignment is made to. So
nothing by which the page is moved is reported as a read as well. -/
theorem analyzeTree_events_exact {settings : Settings} (hon : settings.modules.events = true)
    (source : String) {root : Node} (hapart : Node.SpansApart isSite root) :
    let limit := settings.analysis.effectiveDepth
    let places := (Place.root root).within limit
    let events := (analyzeTree settings source root).events
    places.map (·.node) = root.preorder limit
      ∧ events = places.filterMap (fun p =>
        (hook? p).map (report (Scene.of source settings) p.node))
      ∧ (∀ p kind, hook? p = some kind ↔ Hooks p kind)
      ∧ ∀ span operator target value,
        .assignment span operator target value ∈ root.preorder limit → MovesPage target →
        ∀ e ∈ events, e.span ≠ target.span := by
  intro limit places events
  have hevents : events = _ := analyzeTree_events hon source hapart
  refine ⟨Place.map_node_within_root limit root, hevents, fun p kind => hook?_iff, ?_⟩
  intro span operator target value hn hmoves e he
  rw [hevents] at he
  obtain ⟨p, hp, hfound⟩ := List.mem_filterMap.mp he
  obtain ⟨kind, hkind, rfl⟩ := Option.map_eq_some_iff.mp hfound
  exact span_ne_of_movesPage hapart hn hmoves hp (hook?_iff.mp hkind)

/-- Of two writes to the location, one inside the other, the inner one
has a part of the location as a receiver: that part is read. -/
theorem analyzeTree_events_exact_chained :
    let settings : Settings := { analysis := { maxTraversalDepth := 4 } }
    let source := "location.hash = location.href.x = y"
    let read := Node.member ⟨16, 29⟩ (.identifier ⟨16, 24⟩ "location")
      (.identifier ⟨25, 29⟩ "href") false
    let inner := Node.assignment ⟨16, 35⟩ "="
      (.member ⟨16, 31⟩ read (.identifier ⟨30, 31⟩ "x") false) (.identifier ⟨34, 35⟩ "y")
    let root := Node.assignment ⟨0, 35⟩ "="
      (.member ⟨0, 13⟩ (.identifier ⟨0, 8⟩ "location") (.identifier ⟨9, 13⟩ "hash") false) inner
    Node.SpansApart isSite root
      ∧ (analyzeTree settings source root).events.map (·.span) =
        [root.span, inner.span, read.span] := by
  intro settings source read inner root
  have hapart : Node.SpansApart isSite root := by
    have hshallow : ∀ depth < 5,
        (((root.preorder depth).filter isSite).map Node.span).Nodup := by decide
    intro depth
    rcases Nat.lt_or_ge depth 5 with hlt | hge
    · exact hshallow depth hlt
    · -- nothing lies deeper than four levels
      obtain ⟨k, rfl⟩ := Nat.exists_eq_add_of_le' hge
      exact hshallow 4 (by decide)
  have hon : settings.modules.events = true := rfl
  obtain ⟨-, hevents, -, -⟩ := analyzeTree_events_exact hon source hapart
  refine ⟨hapart, ?_⟩
  rw [hevents]
  decide +kernel

end Analysis

end ScriptScout
