import Mathlib.Data.List.Nodup
import ScriptScout.Json.Record
import ScriptScout.Proofs.JsonText

/-!
# Records that return

A codec writes a value as JSON; on the way through a text the value may
come back in another form, with the members of its objects in another
order. `Faithful` is what such a way has to keep: values without parts
and lists as they are, and of an object what can be looked up in it.
`Codec.Returns` then says that a codec reads what it has written, and
the codec of a record does if each of its fields does
(`record_returns`).
-/

namespace ScriptScout.Json

/-! ## Looking up -/

theorem lookup_eq_some_iff_mem {members : List (String × Json)}
    (h : members.Pairwise (·.1 ≠ ·.1)) {name : String} {j : Json} :
    members.lookup name = some j ↔ (name, j) ∈ members := by
  induction members with
  | nil => simp
  | cons m rest ih =>
      obtain ⟨key, value⟩ := m
      obtain ⟨hkey, hrest⟩ := List.pairwise_cons.mp h
      by_cases hname : name = key
      · subst hname
        rw [List.lookup_cons_self, Option.some.injEq, List.mem_cons, Prod.mk.injEq]
        constructor
        · exact fun heq => .inl ⟨rfl, heq.symm⟩
        · rintro (⟨-, heq⟩ | hmem)
          · exact heq.symm
          · exact absurd rfl (hkey (name, j) hmem)
      · rw [List.lookup_cons, beq_false_of_ne hname, List.mem_cons, Prod.mk.injEq]
        simp only [ih hrest, hname, false_and, false_or]

theorem lookup_of_perm {ms ns : List (String × Json)} (hperm : ms.Perm ns)
    (h : ns.Pairwise (·.1 ≠ ·.1)) (name : String) : ms.lookup name = ns.lookup name := by
  have hms : ms.Pairwise (·.1 ≠ ·.1) := hperm.symm.pairwise h fun hne => hne.symm
  refine Option.ext fun j => ?_
  rw [lookup_eq_some_iff_mem hms, lookup_eq_some_iff_mem h, hperm.mem_iff]

theorem lookup_map_snd (f : Json → Json) (name : String) (members : List (String × Json)) :
    (members.map fun m => (m.1, f m.2)).lookup name = (members.lookup name).map f := by
  induction members with
  | nil => rfl
  | cons m rest ih =>
      rw [List.map_cons, List.lookup_cons, List.lookup_cons]
      split
      · rfl
      · exact ih

/-! ## Ways from what is written to what is read -/

/-- The change `k` of form keeps all that a codec looks at. -/
structure Faithful (k : Json → Json) : Prop where
  bool : ∀ b, k (.bool b) = .bool b
  number : ∀ n, k (.number n) = .number n
  string : ∀ s, k (.string s) = .string s
  array : ∀ items, k (.array items) = .array (items.map k)
  object : ∀ members : List (String × Json), members.Pairwise (·.1 ≠ ·.1) →
    ∃ members', k (.object members) = .object members'
      ∧ ∀ name, members'.lookup name = (members.lookup name).map k

theorem faithful_id : Faithful id where
  bool _ := rfl
  number _ := rfl
  string _ := rfl
  array items := by rw [List.map_id, id_eq]
  object members _ := ⟨members, rfl, fun name => by rw [Option.map_id, id_eq]⟩

theorem faithful_ordered : Faithful ordered where
  bool _ := by simp only [ordered]
  number _ := by simp only [ordered]
  string _ := by simp only [ordered]
  array items := by rw [ordered, orderedItems_eq_map]
  object members h := by
    let given := members.map fun m => (m.1, m.2.ordered)
    have hdistinct : (given ++ []).Pairwise fun (m n : String × Json) => m.1 ≠ n.1 := by
      rw [List.append_nil]
      exact List.pairwise_map.mpr h
    refine ⟨_, by rw [ordered, orderedMembers_eq_map, ofMembers], fun name => ?_⟩
    rw [lookup_of_perm (foldl_insertMember_perm hdistinct) hdistinct, List.append_nil]
    exact lookup_map_snd ordered name members

/-! ## Fields -/

/-- The codec reads `b` where it has written `a`. -/
def Codec.Returns {α : Type} (c : Codec α) (k : Json → Json) (a b : α) : Prop :=
  c.read (k (c.write a)) = some b

namespace Field

variable {σ α : Type} {k : Json → Json} {key : String} {c : Codec α} {s t : σ}

/-- What becomes of the record `t` when it is given the field of `s`. -/
def copy (k : Json → Json) (s : σ) (t : σ) (f : Field σ) : Option σ := f.fill ((f.get s).map k) t

theorem get_ofDefault (key : String) (c : Codec α) (get : σ → α) (set : α → σ → σ) (s : σ) :
    (ofDefault key c get set).get s = some (c.write (get s)) := rfl

theorem copy_ofDefault {get : σ → α} {set : α → σ → σ} {a : α} (h : c.Returns k (get s) a) :
    copy k s t (ofDefault key c get set) = some (set a t) := by
  have hread : c.read (k (c.write (get s))) = some a := h
  simp only [copy, ofDefault, fill, Option.map_some, hread]

theorem copy_mandatory {get : σ → α} {set : α → σ → σ} {a : α} (h : c.Returns k (get s) a) :
    copy k s t (mandatory key c get set) = some (set a t) := by
  have hread : c.read (k (c.write (get s))) = some a := h
  simp only [copy, mandatory, ofDefault, fill, Option.map_some, hread]

/-- A field that is absent leaves the target as it is. -/
theorem copy_optional {get : σ → Option α} {set : Option α → σ → σ}
    (hread : ∀ a, c.Returns k a a) (hnull : ∀ a, (k (c.write a)).isNull = false)
    (ht : set none t = t) : copy k s t (optional key c get set) = some (set (get s) t) := by
  cases hget : get s with
  | none =>
      simp only [copy, optional, hget, Option.map_none, fill, Bool.false_eq_true, if_false, ht]
  | some a =>
      have ha : c.read (k (c.write a)) = some a := hread a
      have hsome := hnull a
      simp only [copy, optional, hget, Option.map_some, fill]
      split
      · next hj => rw [hj] at hsome; cases hsome
      · rw [ha, Option.map_some]

theorem foldlM_copy_cons {f : Field σ} {fs : List (Field σ)} {t' u : σ}
    (hfirst : copy k s t f = some t') (hrest : fs.foldlM (copy k s) t' = some u) :
    (f :: fs).foldlM (copy k s) t = some u := by
  rw [List.foldlM_cons, hfirst]
  exact hrest

end Field

/-! ## Codecs -/

namespace Codec

variable {σ α : Type} {k : Json → Json}

/-- The members that a record is written as. -/
def members (fields : List (Field σ)) (s : σ) : List (String × Json) :=
  fields.filterMap fun f => (f.get s).map (f.key, ·)

theorem forall_mem_members {P : String × Json → Prop} {fields : List (Field σ)} {s : σ} :
    (∀ m ∈ members fields s, P m) ↔ ∀ f ∈ fields, ∀ j ∈ f.get s, P (f.key, j) := by
  constructor
  · intro h f hf j hj
    refine h _ (List.mem_filterMap.mpr ⟨f, hf, ?_⟩)
    rw [Option.mem_def.mp hj]
    rfl
  · intro h m hm
    obtain ⟨f, hf, hm⟩ := List.mem_filterMap.mp hm
    obtain ⟨j, hj, rfl⟩ := Option.map_eq_some_iff.mp hm
    exact h f hf j hj

theorem members_distinct {fields : List (Field σ)} (hkeys : (fields.map (·.key)).Nodup) (s : σ) :
    (members fields s).Pairwise (·.1 ≠ ·.1) := by
  refine (List.pairwise_map.mp hkeys).filterMap _ fun f g hne m hm n hn => ?_
  obtain ⟨_, -, rfl⟩ := Option.map_eq_some_iff.mp hm
  obtain ⟨_, -, rfl⟩ := Option.map_eq_some_iff.mp hn
  exact hne

theorem lookup_members {fields : List (Field σ)} (hkeys : (fields.map (·.key)).Nodup) (s : σ)
    {f : Field σ} (hf : f ∈ fields) : (members fields s).lookup f.key = f.get s := by
  refine Option.ext fun j => ?_
  rw [lookup_eq_some_iff_mem (members_distinct hkeys s)]
  constructor
  · intro hmem
    obtain ⟨g, hg, hm⟩ := List.mem_filterMap.mp hmem
    obtain ⟨_, hget, heq⟩ := Option.map_eq_some_iff.mp hm
    obtain ⟨hkey, rfl⟩ := Prod.mk.inj heq
    obtain rfl := List.inj_on_of_nodup_map hkeys hg hf hkey
    exact hget
  · exact fun hget => List.mem_filterMap.mpr ⟨f, hf, by rw [hget]; rfl⟩

theorem foldlM_congr_of_mem {f g : σ → α → Option σ} {xs : List α}
    (h : ∀ x ∈ xs, ∀ s, f s x = g s x) (s : σ) : xs.foldlM f s = xs.foldlM g s := by
  induction xs generalizing s with
  | nil => rfl
  | cons x xs ih =>
      rw [List.foldlM_cons, List.foldlM_cons, h x List.mem_cons_self]
      exact bind_congr fun t => ih (fun y hy => h y (List.mem_cons_of_mem _ hy)) t

variable (hk : Faithful k)
include hk

theorem bool_returns (b : Bool) : bool.Returns k b b := by
  rw [Returns, bool, hk.bool]
  rfl

theorem string_returns (s : String) : string.Returns k s s := by
  rw [Returns, string, hk.string]
  rfl

theorem nat_returns (n : Nat) : nat.Returns k n n := by
  rw [Returns, nat, hk.number]
  rfl

theorem real_returns (x : Float) : real.Returns k x x := by
  rw [Returns, real, hk.number]
  rfl

theorem names_returns {all : List α} {name : α → String} {a : α}
    (h : all.find? (name · == name a) = some a) : (names all name).Returns k a a := by
  rw [Returns, names, hk.string]
  exact h

theorem list_returns {c : Codec α} {f : α → α} {xs : List α}
    (h : ∀ x ∈ xs, c.Returns k x (f x)) : (list c).Returns k xs (xs.map f) := by
  have hitems : (xs.map fun x => k (c.write x)).mapM c.read = some (xs.map f) := by
    induction xs with
    | nil => rfl
    | cons x xs ih =>
        have hx : c.read (k (c.write x)) = some (f x) := h x List.mem_cons_self
        have hrest := ih fun y hy => h y (List.mem_cons_of_mem _ hy)
        simp only [List.map_cons, List.mapM_cons, hx, hrest, Option.bind_eq_bind,
          Option.bind_some, Option.pure_def]
  simp only [Returns, list, hk.array, List.map_map, Function.comp_def, hitems]

theorem strings_returns (xs : List String) : (list string).Returns k xs xs := by
  simpa only [List.map_id] using list_returns hk (f := id) fun s _ => string_returns hk s

/-! What is written of a value that is there is not what stands for an
absent one. -/

theorem bool_not_null (b : Bool) : (k (bool.write b)).isNull = false := by
  rw [bool, hk.bool]
  rfl

theorem string_not_null (s : String) : (k (string.write s)).isNull = false := by
  rw [string, hk.string]
  rfl

theorem list_not_null (c : Codec α) (xs : List α) : (k ((list c).write xs)).isNull = false := by
  rw [list, hk.array]
  rfl

/-- A record is read back field by field. -/
theorem record_returns {surplus : Bool} {fields : List (Field σ)} {blank s t : σ}
    (hkeys : (fields.map (·.key)).Nodup) (h : fields.foldlM (Field.copy k s) blank = some t) :
    (record surplus fields blank).Returns k s t := by
  obtain ⟨read, hobject, hlookup⟩ := hk.object (members fields s) (members_distinct hkeys s)
  have hwrite : (record surplus fields blank).write s = .object (members fields s) := rfl
  have hfill : ∀ f ∈ fields, ∀ t, f.fill (read.lookup f.key) t = Field.copy k s t f := by
    intro f hf t
    rw [hlookup, lookup_members hkeys s hf, Field.copy]
  rw [Returns, hwrite, hobject, ← h]
  exact foldlM_congr_of_mem hfill blank

end Codec

/-! ## What can be written -/

section

variable {σ α : Type} {depth : Nat}

theorem fits_bool (b : Bool) : Fits depth (Codec.bool.write b) := by
  simp only [Codec.bool, Fits]

theorem fits_string (s : String) : Fits depth (Codec.string.write s) := by
  simp only [Codec.string, Fits]

theorem fits_nat {n : Nat} (h : n < 2 ^ 64) : Fits depth (Codec.nat.write n) := by
  simp only [Codec.nat, Fits]
  exact readsBack_nat h

theorem fits_real {x : Float} (h : (Number.real x).ReadsBack) :
    Fits depth (Codec.real.write x) := by
  simp only [Codec.real, Fits]
  exact h

theorem fits_list {c : Codec α} {xs : List α} (h : ∀ x ∈ xs, Fits depth (c.write x)) :
    Fits (depth + 1) ((Codec.list c).write xs) := by
  simp only [Codec.list, Fits, List.forall_mem_map]
  exact h

theorem fits_record {surplus : Bool} {fields : List (Field σ)} {blank s : σ}
    (h : ∀ f ∈ fields, ∀ j ∈ f.get s, Fits depth j) :
    Fits (depth + 1) ((Codec.record surplus fields blank).write s) := by
  simp only [Codec.record, Fits]
  exact Codec.forall_mem_members.mpr h

/-- A field that is always there. -/
theorem fits_mandatory {key : String} {c : Codec α} {get : σ → α} {set : α → σ → σ} {s : σ}
    (h : Fits depth (c.write (get s))) :
    ∀ j ∈ (Field.mandatory key c get set).get s, Fits depth j := by
  rintro j hj
  obtain rfl := Option.some.inj hj
  exact h

/-- A field that may be absent. -/
theorem fits_optional {key : String} {c : Codec α} {get : σ → Option α} {set : Option α → σ → σ}
    {s : σ} (h : ∀ a, Fits depth (c.write a)) :
    ∀ j ∈ (Field.optional key c get set).get s, Fits depth j := by
  rintro j hj
  obtain ⟨a, -, rfl⟩ := Option.map_eq_some_iff.mp hj
  exact h a

end

end ScriptScout.Json
