import ScriptScout.Files.Path
import ScriptScout.Proofs.Text.Parts

/-!
# The text of a path and its components

The components of a path are what its text says, less the parts that
say nothing: `ofComponents` writes them back as a path with the same
components (`components_ofComponents`), and a name joined to that path
is one more component (`join_ofComponents`). This holds of components
as `components` gives them (`IsNormal`), and so of the first few of
them.
-/

namespace ScriptScout

namespace Path

/-! ## Components -/

theorem components_of_absolute {path : String} {parts : List (List Char)}
    (h : Text.splitOn '/' path.toList = [] :: parts) (hsome : parts ≠ []) :
    components path = .root :: componentsOfParts parts := by
  rw [components, h]
  simp [hsome]

theorem components_of_here {path : String} {parts : List (List Char)}
    (h : Text.splitOn '/' path.toList = ['.'] :: parts) :
    components path = .here :: componentsOfParts parts := by
  rw [components, h]
  rfl

theorem components_of_name {path : String} {first : List Char} {parts : List (List Char)}
    (h : Text.splitOn '/' path.toList = first :: parts) (hsome : first ≠ [])
    (hhere : first ≠ ['.']) : components path = componentsOfParts (first :: parts) := by
  rw [components, h]
  simp [hsome, hhere]

/-- The component can stand behind another one. -/
def Component.IsInner : Component → Prop
  | root => False
  | here => False
  | up => True
  | name text => text ≠ "" ∧ text ≠ "." ∧ text ≠ ".." ∧ '/' ∉ text.toList

/-- Components that a path can have: the root and `.` stand only at the
front. -/
def IsNormal : List Component → Prop
  | [] => True
  | c :: cs => (c = .root ∨ c = .here ∨ c.IsInner) ∧ ∀ d ∈ cs, d.IsInner

theorem Component.IsInner.ne_root {c : Component} (h : c.IsInner) : c ≠ .root := by
  rintro rfl
  exact h

theorem Component.IsInner.concat_ne_root {c : Component} (h : c.IsInner)
    (cs : List Component) : cs ++ [c] ≠ [.root] := by
  intro heq
  have hlast := congrArg List.getLast? heq
  rw [List.getLast?_concat] at hlast
  exact h.ne_root (Option.some.inj hlast)

theorem Component.IsInner.text_ne_empty {c : Component} (h : c.IsInner) : c.text ≠ "" := by
  cases c with
  | root => exact h.elim
  | here => exact h.elim
  | up => decide
  | name text => exact h.1

theorem Component.IsInner.text_ne_here {c : Component} (h : c.IsInner) : c.text ≠ "." := by
  cases c with
  | root => exact h.elim
  | here => exact h.elim
  | up => decide
  | name text => exact h.2.1

theorem Component.IsInner.text_ne_up {c : Component} (h : c.IsInner) (hc : c ≠ .up) :
    c.text ≠ ".." := by
  cases c with
  | root => exact h.elim
  | here => exact h.elim
  | up => exact absurd rfl hc
  | name text => exact h.2.2.1

theorem isNormal_of_append {cs ds : List Component} (h : IsNormal (cs ++ ds)) : IsNormal cs := by
  cases cs with
  | nil => trivial
  | cons c cs => exact ⟨h.1, fun d hd => h.2 d (List.mem_append_left ds hd)⟩

theorem isNormal_concat {cs : List Component} {c : Component} (h : IsNormal cs)
    (hc : c.IsInner) : IsNormal (cs ++ [c]) := by
  cases cs with
  | nil => exact ⟨.inr (.inr hc), by simp⟩
  | cons d cs =>
      exact ⟨h.1, List.forall_mem_append.mpr ⟨h.2, List.forall_mem_singleton.mpr hc⟩⟩

theorem isInner_of_append {cs ds : List Component} (h : IsNormal (cs ++ ds)) (hcs : cs ≠ []) :
    ∀ d ∈ ds, d.IsInner := by
  cases cs with
  | nil => exact absurd rfl hcs
  | cons c cs => exact fun d hd => h.2 d (List.mem_append_right cs hd)

theorem slash_not_mem_text {cs : List Component} (h : IsNormal cs) :
    ∀ c ∈ cs, '/' ∉ c.text.toList := by
  have hinner {c : Component} (hc : c.IsInner) : '/' ∉ c.text.toList := by
    cases c with
    | root => exact hc.elim
    | here => exact hc.elim
    | up => decide
    | name text => exact hc.2.2.2
  cases cs with
  | nil => simp
  | cons c cs =>
      refine List.forall_mem_cons.mpr ⟨?_, fun d hd => hinner (h.2 d hd)⟩
      rcases h.1 with rfl | rfl | hc
      · decide
      · decide
      · exact hinner hc

theorem isInner_componentsOfParts {parts : List (List Char)} (h : ∀ part ∈ parts, '/' ∉ part) :
    ∀ c ∈ componentsOfParts parts, c.IsInner := by
  induction parts with
  | nil => simp [componentsOfParts]
  | cons part parts ih =>
      obtain ⟨hpart, hparts⟩ := List.forall_mem_cons.mp h
      rw [componentsOfParts]
      split
      · exact ih hparts
      next hsome =>
        split
        · exact List.forall_mem_cons.mpr ⟨trivial, ih hparts⟩
        next hup =>
          refine List.forall_mem_cons.mpr ⟨?_, ih hparts⟩
          simp only [Bool.or_eq_true, List.isEmpty_iff, beq_iff_eq, not_or] at hsome hup
          have hne {cs : List Char} (hcs : part ≠ cs) : String.ofList part ≠ String.ofList cs :=
            fun heq => hcs (String.ofList_injective heq)
          exact ⟨hne hsome.1, hne hsome.2, hne hup, by simpa using hpart⟩

theorem isNormal_of_isInner {cs : List Component} (h : ∀ c ∈ cs, c.IsInner) : IsNormal cs := by
  cases cs with
  | nil => trivial
  | cons c cs =>
      obtain ⟨hc, hcs⟩ := List.forall_mem_cons.mp h
      exact ⟨.inr (.inr hc), hcs⟩

theorem isNormal_components (path : String) : IsNormal (components path) := by
  obtain ⟨first, parts, hsplit⟩ := Text.exists_splitOn_eq_cons '/' path.toList
  have hslash : ∀ part ∈ first :: parts, '/' ∉ part :=
    fun part hpart => Text.not_mem_of_mem_splitOn (hsplit ▸ hpart)
  have hinner := isInner_componentsOfParts (List.forall_mem_cons.mp hslash).2
  by_cases hfirst : first = []
  · subst hfirst
    by_cases hparts : parts = []
    · rw [components, hsplit, hparts]
      trivial
    · rw [components_of_absolute hsplit hparts]
      exact ⟨.inl rfl, hinner⟩
  · by_cases hhere : first = ['.']
    · subst hhere
      rw [components_of_here hsplit]
      exact ⟨.inr (.inl rfl), hinner⟩
    · rw [components_of_name hsplit hfirst hhere]
      exact isNormal_of_isInner (isInner_componentsOfParts hslash)

/-! ## Texts -/

theorem splitOn_intercalate {texts : List String} (hsome : texts ≠ [])
    (h : ∀ text ∈ texts, '/' ∉ text.toList) :
    Text.splitOn '/' (String.intercalate "/" texts).toList = texts.map String.toList := by
  rw [Text.splitOn_eq, String.toList_intercalate]
  exact List.splitOn_intercalate '/' (by simpa using h) (by simpa using hsome)

theorem ofComponents_of_ne {cs : List Component} (h : cs ≠ [.root]) :
    ofComponents cs = String.intercalate "/" (cs.map Component.text) := by
  rw [ofComponents]
  rintro rfl
  exact h rfl

theorem splitOn_ofComponents {cs : List Component} (h : IsNormal cs) (hsome : cs ≠ [])
    (hroot : cs ≠ [.root]) :
    Text.splitOn '/' (ofComponents cs).toList = cs.map fun c => c.text.toList := by
  have hslash : ∀ text ∈ cs.map Component.text, '/' ∉ text.toList :=
    List.forall_mem_map.mpr (slash_not_mem_text h)
  rw [ofComponents_of_ne hroot, splitOn_intercalate (by simpa using hsome) hslash, List.map_map]
  rfl

theorem componentsOfParts_text {cs : List Component} (h : ∀ c ∈ cs, c.IsInner) :
    componentsOfParts (cs.map fun c => c.text.toList) = cs := by
  induction cs with
  | nil => rfl
  | cons c cs ih =>
      obtain ⟨hc, hcs⟩ := List.forall_mem_cons.mp h
      rw [List.map_cons, componentsOfParts, ih hcs]
      cases c with
      | root => exact hc.elim
      | here => exact hc.elim
      | up => rfl
      | name text =>
          obtain ⟨hempty, hhere, hup, -⟩ := hc
          have hne {t : String} (ht : text ≠ t) : text.toList ≠ t.toList :=
            fun heq => ht (String.toList_injective heq)
          have hempty : text.toList ≠ [] := hne hempty
          have hhere : text.toList ≠ ['.'] := hne hhere
          have hup : text.toList ≠ ['.', '.'] := hne hup
          simp [Component.text, hempty, hhere, hup]

/-- Written as a path, components are read back. -/
theorem components_ofComponents {cs : List Component} (h : IsNormal cs) :
    components (ofComponents cs) = cs := by
  by_cases hroot : cs = [.root]
  · subst hroot
    rfl
  · cases cs with
    | nil => rfl
    | cons c cs =>
        have hsplit := splitOn_ofComponents h (by simp) hroot
        rw [List.map_cons] at hsplit
        obtain ⟨hc, hcs⟩ := h
        rcases hc with rfl | rfl | hc
        · have hsome : cs ≠ [] := fun heq => hroot (by rw [heq])
          rw [components_of_absolute hsplit (by simpa using hsome), componentsOfParts_text hcs]
        · rw [components_of_here hsplit, componentsOfParts_text hcs]
        · have hne {t : String} (ht : c.text ≠ t) : c.text.toList ≠ t.toList :=
            fun heq => ht (String.toList_injective heq)
          rw [components_of_name hsplit (hne hc.text_ne_empty) (hne hc.text_ne_here)]
          exact componentsOfParts_text (List.forall_mem_cons.mpr ⟨hc, hcs⟩)

theorem text_ne_empty_of_last {front : List Component} {c : Component}
    (h : IsNormal (front ++ [c])) (hroot : front ++ [c] ≠ [.root]) : c.text ≠ "" := by
  by_cases hfront : front = []
  · subst hfront
    rcases h.1 with rfl | rfl | hc
    · exact absurd rfl hroot
    · decide
    · exact hc.text_ne_empty
  · exact (isInner_of_append h hfront c List.mem_cons_self).text_ne_empty

/-- Of the texts of normal components only that of the root ends in a
slash. -/
theorem getLast?_ofComponents {front : List Component} {c : Component}
    (h : IsNormal (front ++ [c])) (hroot : front ++ [c] ≠ [.root]) :
    ∃ last, (ofComponents (front ++ [c])).toList.getLast? = some last ∧ last ≠ '/' := by
  have htext : ∃ lead, ofComponents (front ++ [c]) = lead ++ c.text := by
    rw [ofComponents_of_ne hroot, List.map_append]
    by_cases hfront : front = []
    · exact ⟨"", by simp [hfront]⟩
    · rw [String.intercalate_append_of_ne_nil (by simpa using hfront) (by simp)]
      exact ⟨_, congrArg _ String.intercalate_singleton⟩
  obtain ⟨lead, htext⟩ := htext
  have hsome : c.text.toList ≠ [] :=
    fun heq => text_ne_empty_of_last h hroot (String.toList_eq_nil_iff.mp heq)
  refine ⟨c.text.toList.getLast hsome, ?_, ?_⟩
  · rw [htext, String.toList_append, List.getLast?_append,
      List.getLast?_eq_some_getLast hsome, Option.some_or]
  · intro heq
    exact slash_not_mem_text h c (by simp) (heq ▸ List.getLast_mem hsome)

/-- A name joined to a path is one more component. -/
theorem join_ofComponents {cs : List Component} (h : IsNormal cs) {c : Component}
    (hc : c.IsInner) : join (ofComponents cs) c.text = ofComponents (cs ++ [c]) := by
  rw [ofComponents_of_ne (hc.concat_ne_root cs), List.map_append, List.map_singleton]
  rcases List.eq_nil_or_concat cs with rfl | ⟨front, last, hcs⟩
  · simp [join, ofComponents]
  by_cases hroot : cs = [.root]
  · subst hroot
    rw [List.map_singleton, List.singleton_append, String.intercalate_cons_cons,
      String.intercalate_singleton]
    rfl
  · rw [List.concat_eq_append] at hcs
    subst hcs
    obtain ⟨ending, hending, hslash⟩ := getLast?_ofComponents h hroot
    have hsome : (ofComponents (front ++ [last])).isEmpty = false := by
      cases hempty : (ofComponents (front ++ [last])).isEmpty with
      | false => rfl
      | true =>
          rw [String.isEmpty_iff.mp hempty] at hending
          cases hending
    rw [join, hsome, hending, String.intercalate_append_of_ne_nil (by simp) (by simp),
      ← ofComponents_of_ne hroot]
    simp [hslash]

/-! ## Paths above a path -/

theorem ancestorsOf_cons (c : Component) (cs : List Component) :
    ancestorsOf (c :: cs) =
      (ancestorsOf cs).map (c :: ·) ++ (if c == .root then [] else [[]]) := by
  cases cs <;> cases c <;> rfl

theorem ancestorsOf_concat (cs : List Component) {c : Component} (h : c ≠ .root) :
    ancestorsOf (cs ++ [c]) = (cs ++ [c]) :: ancestorsOf cs := by
  induction cs with
  | nil => rw [List.nil_append, ancestorsOf_cons, if_neg (by simpa using h)]; rfl
  | cons d cs ih => rw [List.cons_append, ancestorsOf_cons, ih, ancestorsOf_cons]; rfl

theorem isNormal_of_mem_ancestorsOf {cs front : List Component} (h : IsNormal cs)
    (hfront : front ∈ ancestorsOf cs) : IsNormal front := by
  have hsplit : ∃ rest, cs = front ++ rest := by
    clear h
    induction cs generalizing front with
    | nil => exact ⟨[], by simpa [ancestorsOf, eq_comm] using hfront⟩
    | cons c cs ih =>
        rw [ancestorsOf_cons, List.mem_append, List.mem_map] at hfront
        rcases hfront with ⟨front, hfront, rfl⟩ | hfront
        · obtain ⟨rest, rfl⟩ := ih hfront
          exact ⟨rest, rfl⟩
        · split at hfront
          · cases hfront
          · exact ⟨c :: cs, by simp [List.mem_singleton.mp hfront]⟩
  obtain ⟨rest, rfl⟩ := hsplit
  exact isNormal_of_append h

end Path

end ScriptScout
