import ScriptScout.Proofs.Text.Parts
import ScriptScout.Url.Shape

/-!
# Where the extension of a file is read from

An address is a path and a tail: a query, a fragment, or nothing. The
extension is looked for in all of it, from the left: the first point with
letters and digits behind it up to a query, a fragment or the end. In the
path only the last point can be that one, since a path has no query and
no fragment inside it (`extensionRun?_eq_some_iff`). So a path that ends
in a point with letters and digits has the say, known or not, and the
search never gets to the tail. Any other path is passed over, and the
extension is that of whatever the tail ends in
(`extensionRun?_append`).
-/

namespace ScriptScout.Url

open ScriptScout.Text (StopsRun stopsRun_nil stopsRun_cons takeWhile_run exists_run)

/-! ## Paths and tails -/

/-- Does the character open a query or a fragment? -/
def opensTail (c : Char) : Bool := c == '?' || c == '#'

/-- No query and no fragment is opened. -/
def IsPath (cs : List Char) : Prop := ∀ c ∈ cs, opensTail c = false

/-- Nothing, or what opens with a query or a fragment. -/
def IsTail (cs : List Char) : Prop := ∀ c ∈ cs.head?, opensTail c = true

instance (cs : List Char) : Decidable (IsPath cs) :=
  decidable_of_iff (cs.all (!opensTail ·) = true) (by simp [IsPath])

instance (cs : List Char) : Decidable (IsTail cs) :=
  decidable_of_iff (cs.head?.all opensTail = true) (by cases cs <;> simp [IsTail])

/-- The text ends in a point with letters and digits behind it. -/
structure EndsIn (cs run : List Char) : Prop where
  ends : ['.'] ++ run <:+ cs
  nonempty : run ≠ []
  alphanumeric : ∀ c ∈ run, c.isAlphanum = true

theorem isAlphanum_of_opensTail {c : Char} (h : opensTail c = true) : c.isAlphanum = false := by
  rw [opensTail, Bool.or_eq_true, beq_iff_eq, beq_iff_eq] at h
  rcases h with rfl | rfl <;> decide

theorem IsPath.of_cons {c : Char} {cs : List Char} (h : IsPath (c :: cs)) : IsPath cs :=
  fun d hd => h d (List.mem_cons_of_mem _ hd)

/-- The run at the start of a path ends where it did, whatever tail
follows. -/
theorem stopsRun_append_tail {rest tail : List Char} (hrest : StopsRun Char.isAlphanum rest)
    (htail : IsTail tail) : StopsRun Char.isAlphanum (rest ++ tail) := by
  cases rest with
  | nil => exact fun c hc => isAlphanum_of_opensTail (htail c hc)
  | cons d rest => exact stopsRun_cons (hrest d rfl) _

/-! ## One place of the search -/

/-- The search stops at a point behind which a run leads up to a tail. -/
theorem extensionRun?_run (c : Char) {run rest : List Char}
    (hrun : ∀ e ∈ run, e.isAlphanum = true) (hrest : StopsRun Char.isAlphanum rest) :
    extensionRun? (c :: (run ++ rest)) =
      if (c == '.' && !run.isEmpty && rest.head?.all opensTail) = true then some run
      else extensionRun? (run ++ rest) := by
  rw [extensionRun?]
  simp only [takeWhile_run hrun hrest, List.drop_left]
  rfl

/-- In a path only the end itself can stand for the tail. -/
theorem all_head?_opensTail_iff {rest : List Char} (h : IsPath rest) :
    rest.head?.all opensTail = true ↔ rest = [] := by
  cases rest with
  | nil => exact iff_of_true rfl rfl
  | cons c rest =>
      have hc : (some c).all opensTail = false := h c (List.mem_cons_self ..)
      rw [List.head?_cons, hc]
      exact iff_of_false Bool.false_ne_true (List.cons_ne_nil _ _)

/-- The tail behind a path decides nothing about a place in the path. -/
theorem all_head?_opensTail_append {rest tail : List Char} (htail : IsTail tail) :
    (rest ++ tail).head?.all opensTail = rest.head?.all opensTail := by
  cases rest with
  | nil =>
      cases tail with
      | nil => rfl
      | cons c tail => exact htail c rfl
  | cons c rest => rfl

/-! ## The whole search -/

/-- The search goes over the path first and over the tail only if there
is nothing in the path. -/
theorem extensionRun?_append {path tail : List Char} (htail : IsTail tail) :
    extensionRun? (path ++ tail) = (extensionRun? path).or (extensionRun? tail) := by
  induction path with
  | nil => rfl
  | cons c path ih =>
      obtain ⟨run, rest, rfl, hrun, hrest⟩ := exists_run Char.isAlphanum path
      rw [List.append_assoc] at ih
      rw [List.cons_append, List.append_assoc, extensionRun?_run c hrun hrest,
        extensionRun?_run c hrun (stopsRun_append_tail hrest htail),
        all_head?_opensTail_append htail, ih]
      split
      · rfl
      · rfl

theorem endsIn_cons_iff {c : Char} {cs run : List Char} :
    EndsIn (c :: cs) run ↔
      (c = '.' ∧ cs = run ∧ run ≠ [] ∧ ∀ e ∈ run, e.isAlphanum = true) ∨ EndsIn cs run := by
  constructor
  · rintro ⟨hends, hne, hrun⟩
    rcases List.suffix_cons_iff.mp hends with heq | hends
    · obtain ⟨rfl, rfl⟩ := List.cons.inj heq
      exact Or.inl ⟨rfl, rfl, hne, hrun⟩
    · exact Or.inr ⟨hends, hne, hrun⟩
  · rintro (⟨rfl, rfl, hne, hrun⟩ | ⟨hends, hne, hrun⟩)
    · exact ⟨List.suffix_rfl, hne, hrun⟩
    · exact ⟨hends.trans (List.suffix_cons ..), hne, hrun⟩

/-- A path of letters and digits has no point. -/
theorem not_endsIn_of_alphanumeric {cs : List Char} (h : ∀ c ∈ cs, c.isAlphanum = true)
    (run : List Char) : ¬EndsIn cs run := by
  rintro ⟨hends, -, -⟩
  have hpoint : '.' ∈ cs := hends.subset (List.mem_cons_self ..)
  exact absurd (h '.' hpoint) (by decide)

/-- A run that is the whole text leaves no rest. -/
theorem eq_nil_of_run {start rest run : List Char} (h : start ++ rest = run)
    (hrun : ∀ c ∈ run, c.isAlphanum = true) (hrest : StopsRun Char.isAlphanum rest) :
    rest = [] := by
  cases rest with
  | nil => rfl
  | cons d rest =>
      have hmem : d ∈ run := h ▸ List.mem_append_right _ (List.mem_cons_self ..)
      have hstop := hrest d rfl
      rw [hrun d hmem] at hstop
      cases hstop

/-- In a path the search finds what the path ends in, and nothing
else. -/
theorem extensionRun?_eq_some_iff {path run : List Char} (hpath : IsPath path) :
    extensionRun? path = some run ↔ EndsIn path run := by
  induction path with
  | nil =>
      refine iff_of_false (fun h => nomatch h) ?_
      exact not_endsIn_of_alphanumeric (List.forall_mem_nil _) run
  | cons c path ih =>
      have ih := ih hpath.of_cons
      obtain ⟨start, rest, rfl, hstart, hrest⟩ := exists_run Char.isAlphanum path
      have hrestPath : IsPath rest := fun d hd =>
        hpath d (List.mem_cons_of_mem _ (List.mem_append_right _ hd))
      have hend := all_head?_opensTail_iff hrestPath
      rw [extensionRun?_run c hstart hrest, endsIn_cons_iff]
      simp only [Bool.and_eq_true, beq_iff_eq, Bool.not_eq_true', List.isEmpty_eq_false_iff, hend]
      split
      · next hfound =>
          obtain ⟨⟨rfl, hne⟩, rfl⟩ := hfound
          rw [List.append_nil, Option.some.injEq]
          constructor
          · rintro rfl
            exact Or.inl ⟨rfl, rfl, hne, hstart⟩
          · rintro (⟨-, hrun, -⟩ | hbelow)
            · exact hrun
            · exact absurd hbelow (not_endsIn_of_alphanumeric hstart run)
      · next hfound =>
          rw [ih]
          constructor
          · exact Or.inr
          · rintro (⟨rfl, heq, hne, hrun⟩ | hbelow)
            · have hnil := eq_nil_of_run heq hrun hrest
              rw [hnil, List.append_nil] at heq
              exact absurd ⟨⟨rfl, heq ▸ hne⟩, hnil⟩ hfound
            · exact hbelow

/-! ## Extensions -/

/-- The extension that a run stands for, if it is a known one. -/
def known? (run : List Char) : Option String :=
  let extension := String.ofList ('.' :: run.map Char.toLower)
  if knownExtensions.contains extension then some extension else none

theorem extension?_eq (value : String) :
    extension? value = (extensionRun? value.toList).bind known? := rfl

/-- **The path has the say, and else the tail.** A path that ends in a
point with letters and digits gives the extension of the whole address:
the one that these stand for, or none if they stand for none. Behind any
other path the extension is read from the query or the fragment. So it
is that of the path exactly if the path has such an end or there is
nothing to be read behind it. -/
theorem extension_path_tail {path tail : String} (hpath : IsPath path.toList)
    (htail : IsTail tail.toList) :
    (∀ run, EndsIn path.toList run → extension? (path ++ tail) = known? run)
      ∧ ((∀ run, ¬EndsIn path.toList run) → extension? (path ++ tail) = extension? tail)
      ∧ (extension? (path ++ tail) = extension? path ↔
        (∃ run, EndsIn path.toList run) ∨ extension? tail = none) := by
  have happend : extension? (path ++ tail) =
      ((extensionRun? path.toList).or (extensionRun? tail.toList)).bind known? := by
    rw [extension?_eq, String.toList_append, extensionRun?_append htail]
  cases hfound : extensionRun? path.toList with
  | some run =>
      have hends := (extensionRun?_eq_some_iff hpath).mp hfound
      have hpathOnly : extension? path = known? run := by rw [extension?_eq, hfound]; rfl
      have hboth : extension? (path ++ tail) = known? run := by rw [happend, hfound]; rfl
      refine ⟨fun run' h => ?_, fun h => absurd hends (h run), ?_⟩
      · have hsame := (extensionRun?_eq_some_iff hpath).mpr h
        rw [hfound] at hsame
        rw [hboth, Option.some.inj hsame]
      · rw [hboth, hpathOnly]
        exact iff_of_true rfl (Or.inl ⟨run, hends⟩)
  | none =>
      have hnone : ∀ run, ¬EndsIn path.toList run := by
        intro run hends
        rw [(extensionRun?_eq_some_iff hpath).mpr hends] at hfound
        cases hfound
      have hpathOnly : extension? path = none := by rw [extension?_eq, hfound]; rfl
      have hboth : extension? (path ++ tail) = extension? tail := by
        rw [happend, hfound, Option.none_or, extension?_eq]
      refine ⟨fun run h => absurd h (hnone run), fun _ => hboth, ?_⟩
      rw [hboth, hpathOnly]
      constructor
      · exact Or.inr
      · rintro (⟨run, hends⟩ | htailOnly)
        · exact absurd hends (hnone run)
        · exact htailOnly

/-- Points before the last one and points of the tail have no say. -/
theorem extension_path_tail_script :
    IsPath "/v1.2/app.JS".toList ∧ IsTail "?next=/print.css#top.png".toList
      ∧ EndsIn "/v1.2/app.JS".toList "JS".toList
      ∧ extension? ("/v1.2/app.JS" ++ "?next=/print.css#top.png") = some ".js" := by
  have hpath : IsPath "/v1.2/app.JS".toList := by decide
  have htail : IsTail "?next=/print.css#top.png".toList := by decide
  have hends : EndsIn "/v1.2/app.JS".toList "JS".toList :=
    ⟨⟨"/v1.2/app".toList, rfl⟩, by decide, List.all_eq_true.mp (by decide)⟩
  refine ⟨hpath, htail, hends, ?_⟩
  rw [(extension_path_tail hpath htail).1 _ hends]
  decide

/-- The path has no extension, and one is read from the query. -/
theorem extension_path_tail_query :
    IsPath "/users".toList ∧ IsTail "?file=x.js".toList
      ∧ extension? ("/users" ++ "?file=x.js") ≠ extension? "/users" := by
  decide

end ScriptScout.Url
