import ScriptScout.Files.Path

/-!
# The order of paths

Paths are listed component by component (`Path.le`). This is a total
order of their components, so two paths that are equal in it have the
same components and differ in their text at most (`le_antisymm`).
-/

namespace ScriptScout.Path

/-! ## Components -/

namespace Component

theorem le_iff {a b : Component} :
    a.le b = true ↔ a.rank < b.rank ∨ a.rank = b.rank ∧ a.text ≤ b.text := by
  cases a <;> cases b <;> simp [le, rank, text]

theorem eq_of_rank {a b : Component} (hrank : a.rank = b.rank) (htext : a.text = b.text) :
    a = b := by
  cases a <;> cases b <;> simp_all [rank, text]

theorem le_total (a b : Component) : a.le b = true ∨ b.le a = true := by
  rw [le_iff, le_iff]
  rcases Nat.lt_trichotomy a.rank b.rank with hlt | heq | hgt
  · exact .inl (.inl hlt)
  · rcases String.le_total a.text b.text with hle | hle
    · exact .inl (.inr ⟨heq, hle⟩)
    · exact .inr (.inr ⟨heq.symm, hle⟩)
  · exact .inr (.inl hgt)

theorem le_trans {a b c : Component} (hab : a.le b = true) (hbc : b.le c = true) :
    a.le c = true := by
  rw [le_iff] at hab hbc ⊢
  rcases hab with hab | ⟨hab, htext⟩
  · exact .inl (by omega)
  · rcases hbc with hbc | ⟨hbc, htext'⟩
    · exact .inl (by omega)
    · exact .inr ⟨hab.trans hbc, String.le_trans htext htext'⟩

theorem le_antisymm {a b : Component} (hab : a.le b = true) (hba : b.le a = true) : a = b := by
  rw [le_iff] at hab hba
  rcases hab with hab | ⟨hrank, htext⟩
  · omega
  · rcases hba with hba | ⟨-, htext'⟩
    · omega
    · exact eq_of_rank hrank (String.le_antisymm htext htext')

end Component

/-! ## Lists of components -/

theorem componentsLe_cons {a b : Component} {as bs : List Component} :
    componentsLe (a :: as) (b :: bs) = true ↔
      a = b ∧ componentsLe as bs = true ∨ a ≠ b ∧ a.le b = true := by
  rw [componentsLe]
  by_cases h : a = b
  · simp [h]
  · simp [h]

theorem componentsLe_total (as bs : List Component) :
    componentsLe as bs = true ∨ componentsLe bs as = true := by
  induction as generalizing bs with
  | nil => exact .inl rfl
  | cons a as ih =>
      cases bs with
      | nil => exact .inr rfl
      | cons b bs =>
          rw [componentsLe_cons, componentsLe_cons]
          by_cases h : a = b
          · rcases ih bs with hle | hle
            · exact .inl (.inl ⟨h, hle⟩)
            · exact .inr (.inl ⟨h.symm, hle⟩)
          · rcases Component.le_total a b with hle | hle
            · exact .inl (.inr ⟨h, hle⟩)
            · exact .inr (.inr ⟨Ne.symm h, hle⟩)

theorem componentsLe_trans {as bs cs : List Component} (hab : componentsLe as bs = true)
    (hbc : componentsLe bs cs = true) : componentsLe as cs = true := by
  induction as generalizing bs cs with
  | nil => rfl
  | cons a as ih =>
      cases bs with
      | nil => cases hab
      | cons b bs =>
          cases cs with
          | nil => cases hbc
          | cons c cs =>
              rw [componentsLe_cons] at hab hbc ⊢
              rcases hab with ⟨rfl, hab⟩ | ⟨hne, hab⟩
              · rcases hbc with ⟨rfl, hbc⟩ | hbc
                · exact .inl ⟨rfl, ih hab hbc⟩
                · exact .inr hbc
              · rcases hbc with ⟨rfl, -⟩ | ⟨hne', hbc⟩
                · exact .inr ⟨hne, hab⟩
                · refine .inr ⟨?_, Component.le_trans hab hbc⟩
                  rintro rfl
                  exact hne (Component.le_antisymm hab hbc)

theorem componentsLe_antisymm {as bs : List Component} (hab : componentsLe as bs = true)
    (hba : componentsLe bs as = true) : as = bs := by
  induction as generalizing bs with
  | nil =>
      cases bs with
      | nil => rfl
      | cons b bs => cases hba
  | cons a as ih =>
      cases bs with
      | nil => cases hab
      | cons b bs =>
          rw [componentsLe_cons] at hab hba
          rcases hab with ⟨rfl, hab⟩ | ⟨hne, hab⟩
          · rcases hba with ⟨-, hba⟩ | ⟨hne, -⟩
            · rw [ih hab hba]
            · exact absurd rfl hne
          · rcases hba with ⟨heq, -⟩ | ⟨-, hba⟩
            · exact absurd heq.symm hne
            · exact absurd (Component.le_antisymm hab hba) hne

/-! ## Paths -/

/-- The path comes before the other and is not the same but for its
text. -/
def Before (p q : String) : Prop := le p q = true ∧ components p ≠ components q

theorem Before.trans {p q r : String} (hpq : Before p q) (hqr : Before q r) : Before p r := by
  refine ⟨componentsLe_trans hpq.1 hqr.1, fun heq => ?_⟩
  have hback : le q p = true := by
    rw [le, heq]
    exact hqr.1
  exact hpq.2 (componentsLe_antisymm hpq.1 hback)

/-- Sorting puts paths in order. -/
theorem pairwise_mergeSort_le (paths : List String) :
    (paths.mergeSort le).Pairwise fun p q => le p q = true := by
  have htrans (p q r : String) (hpq : le p q = true) (hqr : le q r = true) : le p r = true :=
    componentsLe_trans hpq hqr
  have htotal (p q : String) : (le p q || le q p) = true := by
    rw [Bool.or_eq_true]
    exact componentsLe_total (components p) (components q)
  exact List.pairwise_mergeSort htrans htotal paths

end ScriptScout.Path
