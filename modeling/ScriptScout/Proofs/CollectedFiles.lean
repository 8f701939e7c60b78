import Mathlib.Data.List.Destutter
import ScriptScout.Command.Analyze
import ScriptScout.Proofs.FoundFiles
import ScriptScout.Proofs.PathOrder

/-!
# The files of all targets

A file can be given in many ways: by several paths, and by several
directories that it is below. What is collected is sorted, and of paths
with the same components one is left (`collect_spec`). Files that a
search finds come by their canonical paths, so they are never there
twice, however the directories overlap.

A file among the targets keeps the path that it was given by. Such a
path may be relative or lead through `..`, and then it is another path
than the canonical one, for the same file. `collect_once` says when a
file is collected twice: exactly if it was gathered by two paths with
different components, and then one of these is a target that is not
canonical.
-/

namespace ScriptScout.Command.Analyze

open ScriptScout.Path (Before IsCanonical components)

/-! ## Repeated paths -/

/-- The paths differ in their components, and not only in their text. -/
def Differ (p q : String) : Prop := components p ≠ components q

instance : DecidableRel Differ := fun p q =>
  inferInstanceAs (Decidable (components p ≠ components q))

/-- Of neighbours with the same components the first is kept. -/
theorem dropRepeated_eq_destutter (paths : List String) :
    dropRepeated paths = paths.destutter Differ := by
  fun_induction dropRepeated paths with
  | case1 => rfl
  | case2 p => rfl
  | case3 p q rest heq ih =>
      have hsame : ¬ Differ p q := not_not_intro (beq_iff_eq.mp heq)
      rw [ih, List.destutter_cons', List.destutter_cons', List.destutter'_cons_neg _ hsame]
  | case4 p q rest hne ih =>
      have hdiffer : Differ p q := fun heq => hne (beq_iff_eq.mpr heq)
      rw [ih, List.destutter_cons', List.destutter_cons', List.destutter'_cons_pos _ hdiffer]

theorem exists_mem_dropRepeated {paths : List String} {p : String} (h : p ∈ paths) :
    ∃ q ∈ dropRepeated paths, components q = components p := by
  fun_induction dropRepeated paths generalizing p with
  | case1 => cases h
  | case2 q => exact ⟨p, h, rfl⟩
  | case3 q r rest heq ih =>
      rcases List.mem_cons.mp h with rfl | h
      · exact ih List.mem_cons_self
      · rcases List.mem_cons.mp h with rfl | h
        · obtain ⟨x, hx, hsame⟩ := ih List.mem_cons_self
          exact ⟨x, hx, hsame.trans (by simpa using heq)⟩
        · exact ih (List.mem_cons_of_mem _ h)
  | case4 q r rest hne ih =>
      rcases List.mem_cons.mp h with rfl | h
      · exact ⟨p, List.mem_cons_self, rfl⟩
      · obtain ⟨x, hx, hsame⟩ := ih h
        exact ⟨x, List.mem_cons_of_mem _ hx, hsame⟩

/-- In a sorted list paths with the same components are neighbours, so
that one of them is left. -/
theorem pairwise_dropRepeated {paths : List String}
    (h : paths.Pairwise fun p q => Path.le p q = true) : (dropRepeated paths).Pairwise Before := by
  rw [dropRepeated_eq_destutter]
  have hle := (h.sublist (List.destutter_sublist Differ paths)).isChain
  have hdiffer := List.isChain_destutter Differ paths
  have htrans : Trans Before Before Before := ⟨Path.Before.trans⟩
  refine List.isChain_iff_pairwise.mp (List.isChain_iff_getElem.mpr fun i hi => ?_)
  exact ⟨hle.getElem i hi, hdiffer.getElem i hi⟩

/-! ## What is gathered -/

theorem mem_flatten_of_mapM {α β ε : Type} {f : α → Except ε (List β)} {xs : List α}
    {lists : List (List β)} (h : xs.mapM f = .ok lists) {b : β} :
    b ∈ lists.flatten ↔ ∃ x ∈ xs, ∃ bs, f x = .ok bs ∧ b ∈ bs := by
  induction xs generalizing lists with
  | nil =>
      obtain rfl := Except.ok.inj h
      simp
  | cons x xs ih =>
      rw [List.mapM_cons] at h
      cases hx : f x with
      | error cause =>
          rw [hx] at h
          cases h
      | ok bs =>
          cases hxs : xs.mapM f with
          | error cause =>
              rw [hx, hxs] at h
              cases h
          | ok rest =>
              rw [hx, hxs] at h
              obtain rfl := Except.ok.inj h
              simp [ih hxs, hx]

/-- The path is a file among the targets, or one that is found below a
directory among them. -/
inductive Gathers (disk : Disk) (s : Settings) (targets : List String) : String → Prop
  | given {t : String} (ht : t ∈ targets) (hfile : disk.isFile t = true) :
      Gathers disk s targets t
  | found {t p : String} {paths : List String} (ht : t ∈ targets)
      (hdirectory : disk.isDirectory t = true)
      (hpaths : Files.discover disk t Dialect.supportedExtensions s.ignore.paths = .ok paths)
      (hp : p ∈ paths) : Gathers disk s targets p

theorem filesOf_of_isFile {disk : Disk} {t : String} (h : disk.isFile t = true) (s : Settings) :
    filesOf disk s t = .ok [t] := by
  have hdirectory : ¬ disk.isDirectory t = true := by
    intro hdirectory
    obtain ⟨contents, hfile⟩ := Disk.isFile_iff.mp h
    obtain ⟨members, hentry⟩ := Disk.isDirectory_iff.mp hdirectory
    cases hfile.symm.trans hentry
  rw [filesOf, if_neg hdirectory]

theorem filesOf_of_isDirectory {disk : Disk} {t : String} (h : disk.isDirectory t = true)
    (s : Settings) : filesOf disk s t =
      Files.discover disk t Dialect.supportedExtensions s.ignore.paths := by
  rw [filesOf, if_pos h]

theorem gathers_iff {disk : Disk} {s : Settings} {targets : List String}
    (hexists : ∀ t ∈ targets, disk.exists? t = true) {p : String} :
    Gathers disk s targets p ↔
      ∃ t ∈ targets, ∃ paths, filesOf disk s t = .ok paths ∧ p ∈ paths := by
  constructor
  · rintro (⟨ht, hfile⟩ | ⟨ht, hdirectory, hpaths, hp⟩)
    · exact ⟨p, ht, [p], filesOf_of_isFile hfile s, List.mem_singleton_self p⟩
    · exact ⟨_, ht, _, (filesOf_of_isDirectory hdirectory s).trans hpaths, hp⟩
  · rintro ⟨t, ht, paths, hpaths, hp⟩
    rcases Disk.isFile_or_isDirectory (hexists t ht) with hfile | hdirectory
    · rw [filesOf_of_isFile hfile] at hpaths
      obtain rfl := Except.ok.inj hpaths
      obtain rfl := List.mem_singleton.mp hp
      exact .given ht hfile
    · rw [filesOf_of_isDirectory hdirectory] at hpaths
      exact .found ht hdirectory hpaths hp

/-- What is gathered denotes a file, and by its canonical path unless
it was given otherwise. -/
theorem Gathers.isFile {disk : Disk} (hdisk : disk.root.WellFormed) {s : Settings}
    {targets : List String} {p : String} (h : Gathers disk s targets p) :
    disk.isFile p = true ∧ (IsCanonical p ∨ p ∈ targets) := by
  cases h with
  | given ht hfile => exact ⟨hfile, .inr ht⟩
  | found ht hdirectory hpaths hp =>
      obtain ⟨hcanonical, hfile⟩ := Files.isCanonical_of_mem_discover hdisk hdirectory hpaths hp
      exact ⟨hfile, .inl hcanonical⟩

theorem collect_of_mapM {disk : Disk} {s : Settings} {targets : List String}
    {lists : List (List String)} (h : targets.mapM (filesOf disk s) = .ok lists) :
    collect disk s targets = .ok (dropRepeated (lists.flatten.mergeSort Path.le)) := by
  rw [collect, h]
  rfl

/-- What is collected is in order and without repeated paths, and it is
what was gathered. -/
theorem collect_spec {disk : Disk} {s : Settings} {targets : List String}
    (hexists : ∀ t ∈ targets, disk.exists? t = true) {files : List String}
    (h : collect disk s targets = .ok files) :
    files.Pairwise Before ∧ (∀ p ∈ files, Gathers disk s targets p)
      ∧ ∀ p, Gathers disk s targets p → ∃ q ∈ files, components q = components p := by
  cases hlists : targets.mapM (filesOf disk s) with
  | error cause =>
      rw [collect, hlists] at h
      cases h
  | ok lists =>
      rw [collect_of_mapM hlists] at h
      obtain rfl := Except.ok.inj h
      have hmem (p : String) :
          p ∈ lists.flatten.mergeSort Path.le ↔ Gathers disk s targets p := by
        rw [List.mem_mergeSort, mem_flatten_of_mapM hlists, gathers_iff hexists]
      refine ⟨pairwise_dropRepeated (Path.pairwise_mergeSort_le _), fun p hp => ?_, fun p hp => ?_⟩
      · rw [dropRepeated_eq_destutter] at hp
        exact (hmem p).mp ((List.destutter_sublist Differ _).subset hp)
      · exact exists_mem_dropRepeated ((hmem p).mpr hp)

/-! ## Files that are collected twice -/

section

variable {disk : Disk} {s : Settings} {targets files : List String}

theorem exists_sameFile (hdisk : disk.root.WellFormed)
    (hexists : ∀ t ∈ targets, disk.exists? t = true) (h : collect disk s targets = .ok files)
    {p : String} (hp : Gathers disk s targets p) :
    ∃ q ∈ files, components q = components p ∧ disk.SameFile p q := by
  obtain ⟨-, hgathered, hall⟩ := collect_spec hexists h
  obtain ⟨q, hq, hsame⟩ := hall p hp
  obtain ⟨place, hplace⟩ := Disk.exists_locate_of_isFile (hp.isFile hdisk).1
  obtain ⟨place', hplace'⟩ := Disk.exists_locate_of_isFile ((hgathered q hq).isFile hdisk).1
  obtain rfl := Disk.locate_eq_of_components hplace' hplace hsame
  exact ⟨q, hq, hsame, place', hplace, hplace'⟩

/-- Canonical paths of one file have the same components. -/
theorem components_eq_of_sameFile {p q : String} (hp : IsCanonical p) (hq : IsCanonical q)
    (h : disk.SameFile p q) : components p = components q := by
  obtain ⟨place, hplace, hplace'⟩ := h
  rw [Disk.components_of_isCanonical hp hplace, Disk.components_of_isCanonical hq hplace']

/-- Of two entries for one file one is a target, and not canonical. -/
theorem pairwise_spelled (hdisk : disk.root.WellFormed)
    (hexists : ∀ t ∈ targets, disk.exists? t = true) (h : collect disk s targets = .ok files) :
    files.Pairwise fun p q => disk.SameFile p q →
      p ∈ targets ∧ ¬ IsCanonical p ∨ q ∈ targets ∧ ¬ IsCanonical q := by
  obtain ⟨hsorted, hgathered, -⟩ := collect_spec hexists h
  have hcanonical {r : String} (hr : r ∈ files) (hspelled : ¬ (r ∈ targets ∧ ¬ IsCanonical r)) :
      IsCanonical r := by
    rcases ((hgathered r hr).isFile hdisk).2 with hcanonical | htarget
    · exact hcanonical
    · exact not_not.mp fun hnot => hspelled ⟨htarget, hnot⟩
  refine hsorted.imp_of_mem fun {p q} hp hq hbefore hsame => ?_
  by_contra hspelled
  obtain ⟨hnotp, hnotq⟩ := not_or.mp hspelled
  exact hbefore.2 (components_eq_of_sameFile (hcanonical hp hnotp) (hcanonical hq hnotq) hsame)

/-- No two entries are for one file exactly if it is not gathered by
paths with different components. -/
theorem pairwise_not_sameFile_iff (hdisk : disk.root.WellFormed)
    (hexists : ∀ t ∈ targets, disk.exists? t = true) (h : collect disk s targets = .ok files) :
    (files.Pairwise fun p q => ¬ disk.SameFile p q) ↔
      ∀ p q, Gathers disk s targets p → Gathers disk s targets q → disk.SameFile p q →
        components p = components q := by
  obtain ⟨hsorted, hgathered, -⟩ := collect_spec hexists h
  constructor
  · intro hdistinct p q hp hq hsame
    obtain ⟨p', hp', hcomponents, hfile⟩ := exists_sameFile hdisk hexists h hp
    obtain ⟨q', hq', hcomponents', hfile'⟩ := exists_sameFile hdisk hexists h hq
    have hentries : disk.SameFile p' q' := (hfile.symm.trans hsame).trans hfile'
    by_cases heq : p' = q'
    · rw [← hcomponents, heq, hcomponents']
    · have hsymm : Std.Symm fun p q => ¬ disk.SameFile p q :=
        ⟨fun _ _ hnot hback => hnot hback.symm⟩
      exact absurd hentries (hdistinct.forall hp' hq' heq)
  · intro hspelled
    exact hsorted.imp_of_mem fun hp hq hbefore hsame =>
      hbefore.2 (hspelled _ _ (hgathered _ hp) (hgathered _ hq) hsame)

/-- **Which files are collected twice.** The files of all targets are
in order and none is left out. Two entries are for one file only if one
of them is a target by a path that is not canonical; there are no such
entries exactly if the paths that a file is gathered by all have the
same components. -/
theorem collect_once (hdisk : disk.root.WellFormed)
    (hexists : ∀ t ∈ targets, disk.exists? t = true) (h : collect disk s targets = .ok files) :
    files.Pairwise Before
    ∧ (∀ p ∈ files, Gathers disk s targets p)
    ∧ (∀ p, Gathers disk s targets p → ∃ q ∈ files, disk.SameFile p q)
    ∧ (files.Pairwise fun p q => disk.SameFile p q →
      p ∈ targets ∧ ¬ IsCanonical p ∨ q ∈ targets ∧ ¬ IsCanonical q)
    ∧ ((files.Pairwise fun p q => ¬ disk.SameFile p q) ↔
      ∀ p q, Gathers disk s targets p → Gathers disk s targets q → disk.SameFile p q →
        components p = components q) := by
  obtain ⟨hsorted, hgathered, -⟩ := collect_spec hexists h
  refine ⟨hsorted, hgathered, fun p hp => ?_, pairwise_spelled hdisk hexists h,
    pairwise_not_sameFile_iff hdisk hexists h⟩
  obtain ⟨q, hq, -, hsame⟩ := exists_sameFile hdisk hexists h hp
  exact ⟨q, hq, hsame⟩

end

/-- One file in a directory. -/
def library : Disk where
  root := .directory [("lib", .directory [("b.js", .file .empty)])]
  workingDirectory := []

theorem wellFormed_library : library.root.WellFormed := by
  have hlib : (Path.Component.name "lib").IsInner := ⟨by decide, by decide, by decide, by decide⟩
  have hfile : (Path.Component.name "b.js").IsInner := ⟨by decide, by decide, by decide, by decide⟩
  refine .directory (by simpa using hlib) (by simp) (List.forall_mem_singleton.mpr ?_)
  exact .directory (by simpa using hfile) (by simp) (List.forall_mem_singleton.mpr (.file _))

/-- The file by its canonical path, but for a `.`, and by two paths of
its directory. -/
theorem collect_once_overlapping :
    let targets := ["lib", "/lib/./b.js", "lib/../lib"]
    library.root.WellFormed ∧ (∀ t ∈ targets, library.exists? t = true)
    ∧ ∃ files, collect library {} targets = .ok files ∧ files.Pairwise Before
      ∧ (∃ q ∈ files, library.SameFile "/lib/./b.js" q)
      ∧ files.Pairwise fun p q => ¬ library.SameFile p q := by
  intro targets
  have hexists : ∀ t ∈ targets, library.exists? t = true := by decide +kernel
  have hlists : targets.mapM (filesOf library {}) =
      .ok [["/lib/b.js"], ["/lib/./b.js"], ["/lib/b.js"]] := by decide +kernel
  have hcollect := collect_of_mapM hlists
  obtain ⟨hsorted, -, hall, -, hdistinct⟩ := collect_once wellFormed_library hexists hcollect
  have hgiven : Gathers library {} targets "/lib/./b.js" :=
    .given (by simp [targets]) (by decide +kernel)
  have honly : ∀ t ∈ targets, library.isFile t = true → t = "/lib/./b.js" := by decide +kernel
  have hcanonical {p : String} (hp : Gathers library {} targets p) : IsCanonical p := by
    cases hp with
    | given ht hfile =>
        obtain rfl := honly p ht hfile
        exact ⟨["lib", "b.js"], by decide +kernel⟩
    | found ht hdirectory hpaths hp =>
        exact (Files.isCanonical_of_mem_discover wellFormed_library hdirectory hpaths hp).1
  exact ⟨wellFormed_library, hexists, _, hcollect, hsorted, hall _ hgiven,
    hdistinct.mpr fun p q hp hq => components_eq_of_sameFile (hcanonical hp) (hcanonical hq)⟩

/-- A relative path and the directory that the file is found below: one
file, and two entries. -/
theorem collect_twice : collect library {} ["lib/b.js", "lib"] = .ok ["/lib/b.js", "lib/b.js"]
    ∧ library.SameFile "/lib/b.js" "lib/b.js" := by
  have hlists : ["lib/b.js", "lib"].mapM (filesOf library {}) =
      .ok [["lib/b.js"], ["/lib/b.js"]] := by decide +kernel
  have hle : Path.le "lib/b.js" "/lib/b.js" = false := by decide +kernel
  have hsorted : ["lib/b.js", "/lib/b.js"].mergeSort Path.le = ["/lib/b.js", "lib/b.js"] := by
    simp [List.mergeSort, List.MergeSort.Internal.splitInTwo, hle]
  have hdiffer : components "/lib/b.js" ≠ components "lib/b.js" := by decide +kernel
  refine ⟨?_, ["lib", "b.js"], by decide +kernel, by decide +kernel⟩
  rw [collect_of_mapM hlists]
  simp [hsorted, dropRepeated, hdiffer]

end ScriptScout.Command.Analyze
