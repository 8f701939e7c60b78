import Mathlib.Data.List.Perm.Basic
import Mathlib.Data.Option.Basic
import Mathlib.Data.String.Basic
import ScriptScout.Json.Reader

/-!
# Objects in the order of their names

An object that is read from text holds its members in the order of
their names, each name once. `IsOrdered` says this of a value and of
all values inside it. Such a form is unique: however the members of an
object are listed, putting them in one by one gives the ordered object
(`ofMembers_of_perm`). And it is what reading gives:
`isOrdered_of_parse` follows the reader down the nesting.
-/

namespace ScriptScout.Json

/-- `Contains j k`: the value `k` is `j` or stands somewhere inside
it. -/
inductive Contains : Json → Json → Prop
  | self (j : Json) : Contains j j
  | item {items : List Json} {j k : Json} (hj : j ∈ items) (h : Contains j k) :
      Contains (.array items) k
  | member {members : List (String × Json)} {m : String × Json} {k : Json} (hm : m ∈ members)
      (h : Contains m.2 k) : Contains (.object members) k

/-- The names come in increasing order, each once. -/
def Increasing (members : List (String × Json)) : Prop := members.Pairwise (·.1 < ·.1)

/-- Every object in the value holds its members in the order of their
names. -/
def IsOrdered (j : Json) : Prop :=
  ∀ members, Contains j (.object members) → Increasing members

theorem isOrdered_array {items : List Json} :
    IsOrdered (.array items) ↔ ∀ j ∈ items, IsOrdered j := by
  constructor
  · exact fun h j hj members hcontains => h members (.item hj hcontains)
  · intro h members hcontains
    cases hcontains with
    | item hj hinner => exact h _ hj members hinner

theorem isOrdered_object {members : List (String × Json)} :
    IsOrdered (.object members) ↔ Increasing members ∧ ∀ m ∈ members, IsOrdered m.2 := by
  constructor
  · exact fun h => ⟨h members (.self _), fun m hm inner hinner => h inner (.member hm hinner)⟩
  · rintro ⟨hnames, h⟩ inner hcontains
    cases hcontains with
    | self => exact hnames
    | member hm hinner => exact h _ hm inner hinner

/-! ## Putting members in -/

theorem mem_insertMember {name : String} {value : Json} {members : List (String × Json)}
    {m : String × Json} (h : m ∈ insertMember name value members) :
    m = (name, value) ∨ m ∈ members := by
  induction members with
  | nil => exact Or.inl (List.mem_singleton.mp h)
  | cons head rest ih =>
      obtain ⟨k, v⟩ := head
      simp only [insertMember] at h
      split at h
      · exact (List.mem_cons.mp h).imp_right (List.mem_cons_of_mem _)
      · split at h
        · exact List.mem_cons.mp h
        · rcases List.mem_cons.mp h with rfl | h
          · exact Or.inr (List.mem_cons_self ..)
          · exact (ih h).imp_right (List.mem_cons_of_mem _)

theorem insertMember_increasing (name : String) (value : Json) {members : List (String × Json)}
    (h : Increasing members) : Increasing (insertMember name value members) := by
  induction members with
  | nil => exact List.pairwise_singleton _ _
  | cons head rest ih =>
      obtain ⟨k, v⟩ := head
      obtain ⟨hhead, hrest⟩ := List.pairwise_cons.mp h
      simp only [insertMember]
      split
      · next heq =>
          obtain rfl := beq_iff_eq.mp heq
          exact List.pairwise_cons.mpr ⟨hhead, hrest⟩
      · next hne =>
          split
          · next hlt =>
              refine List.pairwise_cons.mpr ⟨fun m hm => ?_, h⟩
              rcases List.mem_cons.mp hm with rfl | hm
              · exact hlt
              · exact lt_trans hlt (hhead m hm)
          · next hnlt =>
              have hgt : k < name :=
                lt_of_le_of_ne (not_lt.mp hnlt) fun heq => hne (beq_iff_eq.mpr heq.symm)
              refine List.pairwise_cons.mpr ⟨fun m hm => ?_, ih hrest⟩
              rcases mem_insertMember hm with rfl | hm
              · exact hgt
              · exact hhead m hm

/-- A new name is put in beside the others. -/
theorem insertMember_perm {name : String} (value : Json) {members : List (String × Json)}
    (h : ∀ m ∈ members, m.1 ≠ name) :
    (insertMember name value members).Perm ((name, value) :: members) := by
  induction members with
  | nil => exact .refl _
  | cons head rest ih =>
      obtain ⟨hhead, hrest⟩ := List.forall_mem_cons.mp h
      obtain ⟨k, v⟩ := head
      simp only [insertMember, beq_iff_eq, if_neg (Ne.symm hhead)]
      split
      · exact .refl _
      · exact ((ih hrest).cons _).trans (.swap ..)

theorem foldl_insertMember_increasing (ms : List (String × Json)) {acc : List (String × Json)}
    (h : Increasing acc) :
    Increasing (ms.foldl (fun acc m => insertMember m.1 m.2 acc) acc) := by
  induction ms generalizing acc with
  | nil => exact h
  | cons m ms ih => exact ih (insertMember_increasing m.1 m.2 h)

theorem foldl_insertMember_perm {ms acc : List (String × Json)}
    (h : (ms ++ acc).Pairwise (·.1 ≠ ·.1)) :
    (ms.foldl (fun acc m => insertMember m.1 m.2 acc) acc).Perm (ms ++ acc) := by
  induction ms generalizing acc with
  | nil => exact .refl _
  | cons m ms ih =>
      obtain ⟨hm, hrest⟩ := List.pairwise_cons.mp h
      have hput : (insertMember m.1 m.2 acc).Perm (m :: acc) :=
        insertMember_perm m.2 fun a ha => (hm a (List.mem_append_right ms ha)).symm
      have hmoved : (ms ++ insertMember m.1 m.2 acc).Perm (m :: ms ++ acc) :=
        (hput.append_left ms).trans List.perm_middle
      exact (ih (hmoved.symm.pairwise h fun hne => hne.symm)).trans hmoved

theorem foldl_insertMember_mem {ms acc : List (String × Json)} {m : String × Json}
    (h : m ∈ ms.foldl (fun acc m => insertMember m.1 m.2 acc) acc) : m ∈ ms ∨ m ∈ acc := by
  induction ms generalizing acc with
  | nil => exact Or.inr h
  | cons first ms ih =>
      rcases ih h with h | h
      · exact Or.inl (List.mem_cons_of_mem _ h)
      · rcases mem_insertMember h with rfl | h
        · exact Or.inl (List.mem_cons_self ..)
        · exact Or.inr h

/-- An ordered object can be given by its members in any order. -/
theorem ofMembers_of_perm {ms members : List (String × Json)} (hsame : ms.Perm members)
    (h : Increasing members) : ofMembers ms = .object members := by
  have hmembers : (ms ++ []).Perm members := by rwa [List.append_nil]
  have hdistinct : (ms ++ []).Pairwise fun (a b : String × Json) => a.1 ≠ b.1 :=
    hmembers.symm.pairwise (h.imp ne_of_lt) fun hne => hne.symm
  have hperm := (foldl_insertMember_perm hdistinct).trans hmembers
  -- the order is strict, so no two members stand below each other
  exact congrArg object <|
    hperm.eq_of_pairwise (fun _ _ _ _ hlt hgt => absurd hgt (lt_asymm hlt))
      (foldl_insertMember_increasing ms .nil) h

theorem ofMembers_isOrdered {ms : List (String × Json)} (h : ∀ m ∈ ms, IsOrdered m.2) :
    IsOrdered (ofMembers ms) := by
  refine isOrdered_object.mpr ⟨foldl_insertMember_increasing ms .nil, fun m hm => ?_⟩
  rcases foldl_insertMember_mem hm with hm | hm
  · exact h m hm
  · exact absurd hm List.not_mem_nil

/-! ## What the reader gives -/

section Items

variable {α : Type} {item : List Char → Option (α × List Char)} {close : Char}
variable {cs rest : List Char} {xs : List α}

theorem readItems_mem {fuel : Nat} (h : readItems item close fuel cs = some (xs, rest)) :
    ∀ x ∈ xs, ∃ before after, item before = some (x, after) := by
  induction fuel generalizing cs xs rest with
  | zero => cases h
  | succ fuel ih =>
      simp only [readItems, Option.bind_eq_bind, Option.bind_eq_some_iff] at h
      obtain ⟨⟨first, after⟩, hfirst, h⟩ := h
      have hhead : ∃ before after, item before = some (first, after) := ⟨cs, after, hfirst⟩
      split at h
      · split at h
        · cases h
          exact fun x hx => List.mem_singleton.mp hx ▸ hhead
        · split at h
          · obtain ⟨⟨more, last⟩, hmore, h⟩ := Option.bind_eq_some_iff.mp h
            cases h
            exact List.forall_mem_cons.mpr ⟨hhead, ih hmore⟩
          · cases h
      · cases h

theorem readContainer_mem (h : readContainer item close cs = some (xs, rest)) :
    ∀ x ∈ xs, ∃ before after, item before = some (x, after) := by
  simp only [readContainer] at h
  split at h
  · cases h
  · split at h
    · cases h
      exact fun _ hx => absurd hx List.not_mem_nil
    · exact readItems_mem h

end Items

theorem readMember_value {value : List Char → Option (Json × List Char)} {cs rest : List Char}
    {m : String × Json} (h : readMember value cs = some (m, rest)) :
    ∃ before after, value before = some (m.2, after) := by
  unfold readMember at h
  split at h
  · simp only [Option.bind_eq_bind, Option.bind_eq_some_iff] at h
    obtain ⟨⟨name, afterName⟩, -, h⟩ := h
    split at h
    · obtain ⟨⟨v, afterValue⟩, hvalue, h⟩ := Option.bind_eq_some_iff.mp h
      cases h
      exact ⟨_, _, hvalue⟩
    · cases h
  · cases h

/-- What the reader gives: a value with no object in it, or an array
or object of values that it has read one level further down. -/
theorem readValue_cases {depth : Nat} {cs rest : List Char} {j : Json}
    (h : readValue depth cs = some (j, rest)) :
    (∀ members, ¬ Contains j (.object members)) ∨
    ∃ inner, depth = inner + 1 ∧
      ((∃ items, j = .array items ∧
          ∀ i ∈ items, ∃ before after, readValue inner before = some (i, after)) ∨
       ∃ members, j = ofMembers members ∧
          ∀ m ∈ members, ∃ before after, readValue inner before = some (m.2, after)) := by
  revert h
  fun_cases readValue depth cs <;> intro h
  case case3 tail inner =>
    obtain ⟨⟨items, after⟩, hitems, heq⟩ := Option.bind_eq_some_iff.mp h
    cases heq
    exact .inr ⟨inner, rfl, .inl ⟨items, rfl, readContainer_mem hitems⟩⟩
  case case5 tail inner =>
    obtain ⟨⟨members, after⟩, hmembers, heq⟩ := Option.bind_eq_some_iff.mp h
    cases heq
    refine .inr ⟨inner, rfl, .inr ⟨members, rfl, fun m hm => ?_⟩⟩
    obtain ⟨_, _, hm⟩ := readContainer_mem hmembers m hm
    exact readMember_value hm
  -- the nesting is used up
  case case2 => cases h
  case case4 => cases h
  all_goals
    obtain ⟨_, -, heq⟩ := Option.map_eq_some_iff.mp h
    cases heq
    exact .inl fun _ hcontains => by cases hcontains

theorem isOrdered_of_readValue {depth : Nat} {cs rest : List Char} {j : Json}
    (h : readValue depth cs = some (j, rest)) : IsOrdered j := by
  induction depth using Nat.strong_induction_on generalizing cs j rest with
  | _ depth ih =>
      rcases readValue_cases h with
        hnone | ⟨inner, rfl, ⟨items, rfl, hitems⟩ | ⟨members, rfl, hmembers⟩⟩
      · exact fun members hcontains => absurd hcontains (hnone members)
      · refine isOrdered_array.mpr fun i hi => ?_
        obtain ⟨_, _, hread⟩ := hitems i hi
        exact ih inner inner.lt_succ_self hread
      · refine ofMembers_isOrdered fun m hm => ?_
        obtain ⟨_, _, hread⟩ := hmembers m hm
        exact ih inner inner.lt_succ_self hread

/-- A value that is read from text holds its objects in order. -/
theorem isOrdered_of_parse {text : String} {j : Json} (h : parse text = some j) :
    IsOrdered j := by
  simp only [parse, Option.bind_eq_bind, Option.bind_eq_some_iff] at h
  obtain ⟨⟨value, rest⟩, hread, _, -, heq⟩ := h
  cases heq
  exact isOrdered_of_readValue hread

end ScriptScout.Json
