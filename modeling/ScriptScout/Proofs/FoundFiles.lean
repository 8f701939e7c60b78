import Mathlib.Data.List.Nodup
import ScriptScout.Proofs.Exclusion
import ScriptScout.Proofs.SettingsLookup

/-!
# The files that a search finds

A search gives each file that it finds by its canonical path
(`Path.IsCanonical`), which starts at the root and goes down by names
alone. On a disk that is well formed such a path denotes the place that
its names say, and nothing else does in the same form
(`Disk.components_of_isCanonical`). So two canonical paths of one file
have the same components.
-/

namespace ScriptScout

open ScriptScout.Path (Component)

/-! ## Well-formed disks -/

/-- Every directory has its members under names that can stand in a
path, each under its own. -/
inductive Entry.WellFormed : Entry → Prop
  | file (contents : ByteArray) : WellFormed (.file contents)
  | directory {members : List (String × Entry)}
      (hnames : ∀ m ∈ members, (Component.name m.1).IsInner)
      (hdistinct : (members.map Prod.fst).Nodup)
      (hmembers : ∀ m ∈ members, m.2.WellFormed) : WellFormed (.directory members)

namespace Entry

theorem mem_of_lookup {members : List (String × Entry)} {name : String} {e : Entry}
    (h : members.lookup name = some e) : (name, e) ∈ members := by
  obtain ⟨before, after, rfl, -⟩ := List.lookup_eq_some_iff.mp h
  simp

theorem lookup_of_mem {members : List (String × Entry)} (hdistinct : (members.map Prod.fst).Nodup)
    {name : String} {e : Entry} (h : (name, e) ∈ members) : members.lookup name = some e := by
  obtain ⟨before, after, rfl⟩ := List.append_of_mem h
  refine List.lookup_eq_some_iff.mpr ⟨before, after, rfl, fun m hm => bne_iff_ne.mpr ?_⟩
  rintro rfl
  rw [List.map_append, List.map_cons] at hdistinct
  exact (List.nodup_append.mp hdistinct).2.2 _ (List.mem_map_of_mem hm) _ List.mem_cons_self rfl

/-- What names lead to is well formed, and so are the names. -/
theorem WellFormed.of_get? {e inner : Entry} (h : e.WellFormed) {names : List String}
    (hinner : e.get? names = some inner) :
    inner.WellFormed ∧ ∀ name ∈ names, (Component.name name).IsInner := by
  induction names generalizing e with
  | nil =>
      obtain rfl := Option.some.inj hinner
      exact ⟨h, by simp⟩
  | cons name names ih =>
      obtain ⟨member, hmember, hrest⟩ := Option.bind_eq_some_iff.mp hinner
      cases h with
      | file contents => cases hmember
      | directory hnames _ hmembers =>
          have hmem := mem_of_lookup hmember
          obtain ⟨hwell, hinners⟩ := ih (hmembers _ hmem) hrest
          exact ⟨hwell, List.forall_mem_cons.mpr ⟨hnames _ hmem, hinners⟩⟩

end Entry

/-! ## Walks -/

namespace Files

open Ignore (Rule Scope)

mutual

/-- A walk finds files that are there. -/
theorem get?_of_mem_walk {exclusions : List Rule} {scopes : List Scope}
    {trail found : List String} : (e : Entry) → e.WellFormed →
      found ∈ walk exclusions scopes trail e →
      ∃ more contents, found = trail ++ more ∧ e.get? more = some (.file contents)
  | .file contents, _, h => ⟨[], contents, by simpa [walk] using h, rfl⟩
  | .directory members, hwell, h => by
      rw [walk] at h
      cases hwell with
      | directory _ hdistinct hmembers =>
          obtain ⟨name, inner, more, contents, hmem, rfl, hmore⟩ :=
            get?_of_mem_walkMembers members hmembers h
          refine ⟨name :: more, contents, rfl, ?_⟩
          rw [Entry.get?, Entry.member?, Entry.lookup_of_mem hdistinct hmem]
          exact hmore

theorem get?_of_mem_walkMembers {exclusions : List Rule} {scopes : List Scope}
    {trail found : List String} : (members : List (String × Entry)) →
      (∀ m ∈ members, m.2.WellFormed) → found ∈ walkMembers exclusions scopes trail members →
      ∃ name inner more contents, (name, inner) ∈ members ∧ found = trail ++ name :: more
        ∧ inner.get? more = some (.file contents)
  | [], _, h => by simp [walkMembers] at h
  | (name, e) :: members, hwell, h => by
      obtain ⟨he, hmembers⟩ := List.forall_mem_cons.mp hwell
      rw [walkMembers] at h
      rcases List.mem_append.mp h with h | h
      · split at h
        · obtain ⟨more, contents, rfl, hmore⟩ := get?_of_mem_walk e he h
          exact ⟨name, e, more, contents, List.mem_cons_self, by simp, hmore⟩
        · cases h
      · obtain ⟨other, inner, more, contents, hmem, hfound⟩ :=
          get?_of_mem_walkMembers members hmembers h
        exact ⟨other, inner, more, contents, List.mem_cons_of_mem _ hmem, hfound⟩

end

end Files

/-! ## Canonical paths -/

/-- The path starts at the root and goes down by names alone. -/
def Path.IsCanonical (path : String) : Prop :=
  ∃ names : List String, Path.components path = .root :: names.map .name

theorem Path.components_ofNames {names : List String}
    (h : ∀ name ∈ names, (Component.name name).IsInner) :
    Path.components (Path.ofNames names) = .root :: names.map .name :=
  Path.components_ofComponents ⟨.inl rfl, List.forall_mem_map.mpr h⟩

namespace Disk

/-- The paths denote the same place. -/
def SameFile (disk : Disk) (p q : String) : Prop :=
  ∃ place, disk.locate p = .ok place ∧ disk.locate q = .ok place

theorem SameFile.symm {disk : Disk} {p q : String} (h : disk.SameFile p q) :
    disk.SameFile q p := by
  obtain ⟨place, hp, hq⟩ := h
  exact ⟨place, hq, hp⟩

theorem SameFile.trans {disk : Disk} {p q r : String} (hpq : disk.SameFile p q)
    (hqr : disk.SameFile q r) : disk.SameFile p r := by
  obtain ⟨place, hp, hq⟩ := hpq
  obtain ⟨place', hq', hr⟩ := hqr
  obtain rfl := Except.ok.inj (hq.symm.trans hq')
  exact ⟨place, hp, hr⟩

theorem reach_of_locate_ok {disk : Disk} {path : String} {place : List String}
    (h : disk.locate path = .ok place) : disk.reach (Path.components path) = .ok place := by
  refine reach_of_locate ?_ h
  rintro rfl
  cases h

/-- Paths with the same components denote the same, if both of them
denote anything. -/
theorem locate_eq_of_components {disk : Disk} {p q : String} {place place' : List String}
    (hp : disk.locate p = .ok place) (hq : disk.locate q = .ok place')
    (h : Path.components p = Path.components q) : place = place' := by
  have hreach := reach_of_locate_ok hp
  rw [h, reach_of_locate_ok hq] at hreach
  exact (Except.ok.inj hreach).symm

theorem follow_name_iff {disk : Disk} {place next : List String} {name : String}
    (h : (Component.name name).IsInner) : disk.follow place name = .ok next ↔
      (∃ e, disk.root.get? (place ++ [name]) = some e) ∧ next = place ++ [name] := by
  have hfollow := disk.toOption_follow place h
  cases hstep : disk.follow place name with
  | error cause =>
      rw [hstep] at hfollow
      have hnone := Option.map_eq_none_iff.mp hfollow.symm
      simp [hnone]
  | ok middle =>
      rw [hstep] at hfollow
      obtain ⟨e, he, rfl⟩ := Option.map_eq_some_iff.mp hfollow.symm
      simp [he, eq_comm]

/-- Names are followed as far as they lead to something, and lead to
where they say. -/
theorem foldlM_enter_names {disk : Disk} {place names : List String}
    (hnames : ∀ name ∈ names, (Component.name name).IsInner) {next : List String}
    (h : (names.map Component.name).foldlM disk.enter place = .ok next) :
    next = place ++ names := by
  induction names generalizing place with
  | nil =>
      rw [List.append_nil]
      exact (Except.ok.inj h).symm
  | cons name names ih =>
      obtain ⟨hname, hnames⟩ := List.forall_mem_cons.mp hnames
      rw [List.map_cons, List.foldlM_cons] at h
      obtain ⟨middle, hstep, h⟩ := exists_of_bind h
      obtain ⟨-, rfl⟩ := (follow_name_iff hname).mp hstep
      rw [ih hnames h, List.append_assoc, List.singleton_append]

theorem foldlM_enter_of_get? {disk : Disk} {place names : List String} {e : Entry}
    (hnames : ∀ name ∈ names, (Component.name name).IsInner)
    (h : disk.root.get? (place ++ names) = some e) :
    (names.map Component.name).foldlM disk.enter place = .ok (place ++ names) := by
  induction names generalizing place with
  | nil =>
      rw [List.append_nil]
      rfl
  | cons name names ih =>
      obtain ⟨hname, hnames⟩ := List.forall_mem_cons.mp hnames
      rw [List.append_cons] at h ⊢
      obtain ⟨inner, hinner, -⟩ := Option.bind_eq_some_iff.mp ((Entry.get?_append ..).symm.trans h)
      have hstep : disk.enter place (.name name) = .ok (place ++ [name]) :=
        (follow_name_iff hname).mpr ⟨⟨inner, hinner⟩, rfl⟩
      rw [List.map_cons, List.foldlM_cons, hstep]
      exact ih hnames h

/-- A canonical path says which place it denotes. -/
theorem components_of_isCanonical {disk : Disk} {path : String} {place : List String}
    (h : Path.IsCanonical path) (hplace : disk.locate path = .ok place) :
    Path.components path = .root :: place.map .name := by
  obtain ⟨names, hcomponents⟩ := h
  have hnames : ∀ name ∈ names, (Component.name name).IsInner := by
    have hnormal := Path.isNormal_components path
    rw [hcomponents] at hnormal
    exact List.forall_mem_map.mp hnormal.2
  have hreach := reach_of_locate_ok hplace
  rw [hcomponents, reach, List.foldlM_cons] at hreach
  rw [foldlM_enter_names hnames hreach, hcomponents, List.nil_append]

theorem locate_ofNames {disk : Disk} {names : List String} {e : Entry} (hsome : names ≠ [])
    (hnames : ∀ name ∈ names, (Component.name name).IsInner)
    (h : disk.root.get? names = some e) : disk.locate (Path.ofNames names) = .ok names := by
  have hnormal : Path.IsNormal (.root :: names.map .name) :=
    ⟨.inl rfl, List.forall_mem_map.mpr hnames⟩
  rw [Path.ofNames, disk.locate_ofComponents hnormal (by simp) (by simpa using hsome), reach,
    List.foldlM_cons]
  exact foldlM_enter_of_get? hnames h

theorem entry_eq_ok_iff {disk : Disk} {path : String} {e : Entry} : disk.entry path = .ok e ↔
    ∃ place, disk.locate path = .ok place ∧ disk.root.get? place = some e := by
  rw [entry_eq]
  cases disk.locate path with
  | error cause => simp [bind, Except.bind]
  | ok place =>
      rw [ok_bind]
      cases hget : disk.root.get? place <;> simp [hget]

theorem isDirectory_iff {disk : Disk} {path : String} :
    disk.isDirectory path = true ↔ ∃ members, disk.entry path = .ok (.directory members) := by
  rw [isDirectory]
  cases disk.entry path with
  | error cause => simp
  | ok e => cases e <;> simp [Entry.isFile]

theorem isFile_iff {disk : Disk} {path : String} :
    disk.isFile path = true ↔ ∃ contents, disk.entry path = .ok (.file contents) := by
  rw [isFile]
  cases disk.entry path with
  | error cause => simp
  | ok e => cases e <;> simp [Entry.isFile]

theorem isFile_or_isDirectory {disk : Disk} {path : String} (h : disk.exists? path = true) :
    disk.isFile path = true ∨ disk.isDirectory path = true := by
  rw [isFile_iff, isDirectory_iff]
  rw [exists?] at h
  cases hentry : disk.entry path with
  | error cause =>
      rw [hentry] at h
      cases h
  | ok e => cases e <;> simp

theorem exists_locate_of_isFile {disk : Disk} {path : String} (h : disk.isFile path = true) :
    ∃ place, disk.locate path = .ok place := by
  obtain ⟨contents, hentry⟩ := isFile_iff.mp h
  obtain ⟨place, hplace, -⟩ := entry_eq_ok_iff.mp hentry
  exact ⟨place, hplace⟩

end Disk

/-! ## Searches -/

namespace Files

theorem exists_of_discover {disk : Disk} {start : String} {extensions patterns paths : List String}
    (h : discover disk start extensions patterns = .ok paths) :
    ∃ place rules, disk.locate start = .ok place ∧ exclusionRules patterns = .ok rules := by
  cases hplace : disk.locate start with
  | error cause =>
      rw [discover_of_error hplace] at h
      cases h
  | ok place =>
      cases hrules : exclusionRules patterns with
      | error cause =>
          rw [discover_of_invalid hplace hrules] at h
          cases h
      | ok rules => exact ⟨place, rules, rfl, rfl⟩

/-- What a search finds below a directory are files, each by its
canonical path. -/
theorem isCanonical_of_mem_discover {disk : Disk} (hdisk : disk.root.WellFormed) {start : String}
    (hstart : disk.isDirectory start = true) {extensions patterns paths : List String}
    (h : discover disk start extensions patterns = .ok paths) {p : String} (hp : p ∈ paths) :
    Path.IsCanonical p ∧ disk.isFile p = true := by
  obtain ⟨place, rules, hplace, hrules⟩ := exists_of_discover h
  obtain ⟨found, hfound, hmem⟩ := mem_discover hplace hrules extensions
  obtain rfl := Except.ok.inj (h.symm.trans hfound)
  obtain ⟨-, e, trail, he, rfl, htrail⟩ := (hmem p).mp hp
  obtain ⟨_, contents, rfl, hfile⟩ := get?_of_mem_walk e (hdisk.of_get? he).1 htrail
  have hget : disk.root.get? (place ++ trail) = some (.file contents) := by
    rw [Entry.get?_append, he, Option.bind_some, hfile]
  have hnames := (hdisk.of_get? hget).2
  have hsome : trail ≠ [] := by
    rintro rfl
    obtain ⟨members, hentry⟩ := Disk.isDirectory_iff.mp hstart
    obtain ⟨place', hplace', hdirectory⟩ := Disk.entry_eq_ok_iff.mp hentry
    obtain rfl := Except.ok.inj (hplace.symm.trans hplace')
    rw [List.append_nil, hdirectory] at hget
    cases hget
  refine ⟨⟨place ++ trail, Path.components_ofNames hnames⟩, Disk.isFile_iff.mpr ⟨contents, ?_⟩⟩
  exact Disk.entry_eq_ok_iff.mpr
    ⟨place ++ trail, Disk.locate_ofNames (by simp [hsome]) hnames hget, hget⟩

end Files

end ScriptScout
