import Mathlib.Data.List.Induction
import ScriptScout.Proofs.DiskWrite
import ScriptScout.Proofs.PathText
import ScriptScout.Settings.File

/-!
# The settings that hold in a directory

Settings are looked for in a directory and in those above it, as far as
the text of its path goes. Without `..` these are the directories that
are really above it, up to the root for an absolute path, and up to the
working directory for any other. A `..` is taken off the text like a
name, which leads back down into the directory it came from; the search
goes on there (`find_nearest`).

What the text of a path leads to is followed component by component
(`Disk.reach`), so taking the last one off a path goes back one step
(`Disk.reach_concat`, `findAt_concat`); the induction is over the
components from the back.
-/

namespace ScriptScout

open ScriptScout.Path (Component IsNormal)

/-! ## Following components -/

namespace Disk

theorem exists_of_bind {α β : Type} {x : Except FileError α} {f : α → Except FileError β} {b : β}
    (h : x >>= f = .ok b) : ∃ a, x = .ok a ∧ f a = .ok b := by
  cases x with
  | error cause => cases h
  | ok a => exact ⟨a, rfl, h⟩

/-- Follows one component of a path. -/
def enter (disk : Disk) (place : List String) : Component → Except FileError (List String)
  | .root => .ok []
  | c => disk.follow place c.text

/-- The names that lead from the root to what the components denote. -/
def reach (disk : Disk) (cs : List Component) : Except FileError (List String) :=
  cs.foldlM disk.enter disk.workingDirectory

theorem reach_concat (disk : Disk) (cs : List Component) (c : Component) :
    disk.reach (cs ++ [c]) = disk.reach cs >>= (disk.enter · c) := by
  simp [reach, List.foldlM_append]

theorem enter_of_ne (disk : Disk) (place : List String) {c : Component} (h : c ≠ .root) :
    disk.enter place c = disk.follow place c.text := by
  cases c with
  | root => exact absurd rfl h
  | here => rfl
  | up => rfl
  | name text => rfl

theorem foldlM_enter (disk : Disk) (place : List String) {cs : List Component}
    (h : ∀ c ∈ cs, c.IsInner) :
    cs.foldlM disk.enter place = (cs.map Component.text).foldlM disk.follow place := by
  induction cs generalizing place with
  | nil => rfl
  | cons c cs ih =>
      obtain ⟨hc, hcs⟩ := List.forall_mem_cons.mp h
      have hroot : c ≠ .root := fun heq => by rw [heq] at hc; exact hc
      rw [List.foldlM_cons, List.map_cons, List.foldlM_cons, enter_of_ne disk place hroot]
      exact bind_congr fun next => ih next hcs

/-- A part other than `..` leads to the same place or to a member. -/
theorem follow_eq_ok {disk : Disk} {place next : List String} {part : String}
    (h : disk.follow place part = .ok next) (hup : part ≠ "..") :
    next = place ∨ next = place ++ [part] := by
  rw [follow] at h
  split at h
  · split at h
    · exact .inl (Except.ok.inj h).symm
    · rw [if_neg (by simpa using hup)] at h
      split at h
      · exact .inr (Except.ok.inj h).symm
      · cases h
  · cases h
  · cases h

/-- A name leads to the member of that name. -/
theorem toOption_follow (disk : Disk) (place : List String) {name : String}
    (h : (Component.name name).IsInner) : (disk.follow place name).toOption =
      (disk.root.get? (place ++ [name])).map fun _ => place ++ [name] := by
  obtain ⟨hempty, hhere, hup, -⟩ := h
  rw [follow, Entry.get?_append]
  cases disk.root.get? place with
  | none => rfl
  | some e =>
      cases e with
      | file contents => rfl
      | directory members =>
          dsimp only [Option.bind_some]
          rw [if_neg (by simp [hempty, hhere]), if_neg (by simpa using hup), Entry.get?]
          cases hmember : members.lookup name with
          | none => simp [Entry.member?, hmember, Except.toOption]
          | some inner => simp [Entry.member?, hmember, Entry.get?, Except.toOption]

theorem follow_stays {disk : Disk} {place next : List String} {part : String}
    (h : disk.follow place part = .ok next) (hpart : part = "" ∨ part = ".") : next = place := by
  rw [follow] at h
  split at h
  · rw [if_pos (by simpa using hpart)] at h
    exact (Except.ok.inj h).symm
  · cases h
  · cases h

/-! ## Paths as texts -/

theorem start_of_absolute (disk : Disk) {path : String} {parts : List String}
    (h : (Text.splitOn '/' path.toList).map String.ofList = "" :: parts) :
    disk.start path = ([], parts) := by
  rw [start, h]
  rfl

theorem start_of_relative (disk : Disk) {path first : String} {parts : List String}
    (h : (Text.splitOn '/' path.toList).map String.ofList = first :: parts)
    (hfirst : first ≠ "") : disk.start path = (disk.workingDirectory, first :: parts) := by
  rw [start, h]
  split
  next heq => exact absurd (List.cons.inj heq).1 hfirst
  · rfl

theorem locate_of_start {disk : Disk} {path : String} {place parts : List String}
    (hsome : path ≠ "") (h : disk.start path = (place, parts)) :
    disk.locate path = parts.foldlM disk.follow place := by
  rw [locate, if_neg (by simpa using hsome), h]

theorem locate_ofComponents (disk : Disk) {cs : List Component} (h : IsNormal cs)
    (hsome : cs ≠ []) (hroot : cs ≠ [.root]) :
    disk.locate (Path.ofComponents cs) = disk.reach cs := by
  have hpath : Path.ofComponents cs ≠ "" := by
    intro heq
    have hread := Path.components_ofComponents h
    rw [heq] at hread
    exact hsome hread.symm
  have hparts : (Text.splitOn '/' (Path.ofComponents cs).toList).map String.ofList =
      cs.map Component.text := by
    rw [Path.splitOn_ofComponents h hsome hroot]
    simp
  cases cs with
  | nil => exact absurd rfl hsome
  | cons c cs =>
      obtain ⟨hc, hcs⟩ := h
      rw [List.map_cons] at hparts
      rw [reach, List.foldlM_cons]
      by_cases hc' : c = .root
      · subst hc'
        rw [locate_of_start hpath (disk.start_of_absolute hparts)]
        exact (disk.foldlM_enter [] hcs).symm
      · have htext : c.text ≠ "" := by
          rcases hc with rfl | rfl | hc
          · exact absurd rfl hc'
          · decide
          · exact hc.text_ne_empty
        rw [locate_of_start hpath (disk.start_of_relative hparts htext), List.foldlM_cons,
          disk.enter_of_ne _ hc']
        exact bind_congr fun next => (disk.foldlM_enter next hcs).symm

theorem foldlM_componentsOfParts {disk : Disk} {place next : List String}
    {parts : List (List Char)}
    (h : (parts.map String.ofList).foldlM disk.follow place = .ok next) :
    (Path.componentsOfParts parts).foldlM disk.enter place = .ok next := by
  induction parts generalizing place with
  | nil => exact h
  | cons part parts ih =>
      rw [List.map_cons, List.foldlM_cons] at h
      obtain ⟨middle, hfirst, h⟩ := exists_of_bind h
      have hrest := ih h
      rw [Path.componentsOfParts]
      split
      next hpart =>
        have hpart : String.ofList part = "" ∨ String.ofList part = "." := by
          simp only [Bool.or_eq_true, List.isEmpty_iff, beq_iff_eq] at hpart
          rcases hpart with rfl | rfl
          · exact .inl rfl
          · exact .inr rfl
        obtain rfl := follow_stays hfirst hpart
        exact hrest
      · split
        next hup =>
          obtain rfl := beq_iff_eq.mp hup
          have henter : disk.enter place .up = .ok middle := hfirst
          rw [List.foldlM_cons, henter]
          exact hrest
        · have henter : disk.enter place (.name (String.ofList part)) = .ok middle := hfirst
          rw [List.foldlM_cons, henter]
          exact hrest

/-- The path denotes what is at a place. The empty path stands for the
working directory. -/
def Denotes (disk : Disk) (path : String) (place : List String) : Prop :=
  if path = "" then place = disk.workingDirectory else disk.locate path = .ok place

theorem reach_of_locate {disk : Disk} {path : String} {place : List String} (hpath : path ≠ "")
    (h : disk.locate path = .ok place) : disk.reach (Path.components path) = .ok place := by
  obtain ⟨first, parts, hsplit⟩ := Text.exists_splitOn_eq_cons '/' path.toList
  have hparts : (Text.splitOn '/' path.toList).map String.ofList =
      String.ofList first :: parts.map String.ofList := by rw [hsplit, List.map_cons]
  by_cases hfirst : first = []
  · subst hfirst
    have hsome : parts ≠ [] := by
      rintro rfl
      exact hpath (String.toList_eq_nil_iff.mp (Text.eq_nil_of_splitOn hsplit))
    rw [locate_of_start hpath (disk.start_of_absolute hparts)] at h
    rw [Path.components_of_absolute hsplit hsome]
    exact foldlM_componentsOfParts h
  · have hne : String.ofList first ≠ "" := fun heq => hfirst (String.ofList_injective heq)
    rw [locate_of_start hpath (disk.start_of_relative hparts hne)] at h
    by_cases hhere : first = ['.']
    · subst hhere
      rw [List.foldlM_cons] at h
      obtain ⟨middle, hstep, h⟩ := exists_of_bind h
      have henter : disk.enter disk.workingDirectory .here = .ok middle := hstep
      rw [Path.components_of_here hsplit, reach, List.foldlM_cons, henter]
      exact foldlM_componentsOfParts h
    · rw [Path.components_of_name hsplit hfirst hhere]
      exact foldlM_componentsOfParts h

theorem Denotes.reach {disk : Disk} {path : String} {place : List String}
    (h : disk.Denotes path place) : disk.reach (Path.components path) = .ok place := by
  rw [Denotes] at h
  split at h
  next hpath =>
    rw [hpath, h]
    rfl
  next hpath => exact reach_of_locate hpath h

/-- The highest directory that the text of a path stands for, if it
has no `..`. -/
def top (disk : Disk) (path : String) : List String :=
  if (Path.components path).head? = some .root then [] else disk.workingDirectory

theorem entry_eq (disk : Disk) (path : String) : disk.entry path =
    disk.locate path >>= fun place => (disk.root.get? place).elim (.error .notFound) .ok := by
  rw [entry]
  refine bind_congr fun place => ?_
  cases disk.root.get? place <;> rfl

end Disk

namespace Settings

/-! ## The files -/

/-- The settings file of a directory. -/
def fileAt? (disk : Disk) (place : List String) : Option Entry :=
  disk.root.get? (place ++ [fileName])

/-- The settings of a file, if it is one and can be read. -/
def ofEntry : Entry → Except LookupError Settings
  | .directory _ => .error (.unreadable .isADirectory)
  | .file contents =>
      (String.fromUTF8? contents).elim (.error (.unreadable .notText)) fun text =>
        (ofToml? text).elim (.error .malformed) .ok

theorem load_of_entry {disk : Disk} {path : String} {e : Entry} (h : disk.entry path = .ok e) :
    load disk path = ofEntry e := by
  rw [load, Disk.read, h, Disk.ok_bind]
  cases e with
  | directory members => rfl
  | file contents =>
      rw [ofEntry]
      dsimp only
      cases String.fromUTF8? contents with
      | none => rfl
      | some text =>
          dsimp only [Except.mapError, bind, Except.bind, Option.elim]
          cases ofToml? text <;> rfl

theorem isInner_fileName : (Component.name fileName).IsInner :=
  ⟨by decide, by decide, by decide, by decide⟩

/-- The settings file of the directory that components denote. -/
def fileOf? (disk : Disk) (cs : List Component) : Option Entry :=
  (disk.reach cs).toOption.bind (fileAt? disk)

theorem entry_fileName (disk : Disk) {cs : List Component} (h : IsNormal cs) :
    (disk.entry (Path.join (Path.ofComponents cs) fileName)).toOption = fileOf? disk cs := by
  have hjoin := Path.join_ofComponents h isInner_fileName
  have hlocate := disk.locate_ofComponents (Path.isNormal_concat h isInner_fileName) (by simp)
    (isInner_fileName.concat_ne_root cs)
  rw [Component.text] at hjoin
  rw [Disk.entry_eq, hjoin, hlocate, Disk.reach_concat, fileOf?]
  cases disk.reach cs with
  | error cause => rfl
  | ok place =>
      have hfollow := disk.toOption_follow place isInner_fileName
      rw [Disk.ok_bind, Disk.enter_of_ne _ _ isInner_fileName.ne_root, Component.text]
      cases hnext : disk.follow place fileName with
      | error cause =>
          rw [hnext] at hfollow
          exact (Option.map_eq_none_iff.mp hfollow.symm).symm
      | ok next =>
          rw [hnext] at hfollow
          obtain ⟨e, he, rfl⟩ := Option.map_eq_some_iff.mp hfollow.symm
          rw [Disk.ok_bind, he]
          exact he.symm

/-! ## The search -/

/-- The settings that hold in the directory that components denote. -/
def findAt (disk : Disk) (cs : List Component) : Except LookupError Settings :=
  ((Path.ancestorsOf cs).findSome? (fileOf? disk)).elim (.ok {}) ofEntry

theorem findAt_concat (disk : Disk) (cs : List Component) {c : Component} (h : c ≠ .root) :
    findAt disk (cs ++ [c]) = (fileOf? disk (cs ++ [c])).elim (findAt disk cs) ofEntry := by
  rw [findAt, Path.ancestorsOf_concat cs h, List.findSome?_cons]
  cases fileOf? disk (cs ++ [c]) <;> rfl

/-- The search depends on the components of the path only. -/
theorem find_eq_findAt (disk : Disk) (start : String) :
    find disk start = findAt disk (Path.components start) := by
  have hnormal : ∀ cs ∈ Path.ancestorsOf (Path.components start), IsNormal cs :=
    fun _ => Path.isNormal_of_mem_ancestorsOf (Path.isNormal_components start)
  rw [find, locate?, findAt, Path.ancestors, List.map_map]
  generalize Path.ancestorsOf (Path.components start) = paths at hnormal
  induction paths with
  | nil => rfl
  | cons cs paths ih =>
      obtain ⟨hcs, hpaths⟩ := List.forall_mem_cons.mp hnormal
      have hfile := entry_fileName disk hcs
      rw [List.map_cons, List.find?_cons, List.findSome?_cons, ← hfile, Disk.exists?,
        Function.comp_apply]
      cases hentry : disk.entry (Path.join (Path.ofComponents cs) fileName) with
      | error cause => exact ih hpaths
      | ok e => exact load_of_entry hentry

/-- The file is the nearest between two places, where `place` is the
lower one. -/
structure IsNearest (disk : Disk) (top place found : List String) (e : Entry) : Prop where
  below : top <+: found
  above : found <+: place
  file : fileAt? disk found = some e
  nearest : ∀ q, found <+: q → q <+: place → q ≠ found → fileAt? disk q = none

/-- The settings are those of the nearest file between two places;
where there is none, they are the usual ones. -/
inductive FromNearest (disk : Disk) (top place : List String)
    (usual : Except LookupError Settings) : Except LookupError Settings → Prop
  | file {found : List String} {e : Entry} (h : IsNearest disk top place found e) :
      FromNearest disk top place usual (ofEntry e)
  | usual (htop : top <+: place)
      (h : ∀ q, top <+: q → q <+: place → fileAt? disk q = none) :
      FromNearest disk top place usual usual

theorem isNearest_self {disk : Disk} {top place : List String} {e : Entry} (htop : top <+: place)
    (h : fileAt? disk place = some e) : IsNearest disk top place place e where
  below := htop
  above := List.prefix_refl place
  file := h
  nearest _ hplace hq hne := absurd (hq.eq_of_length_le hplace.length_le) hne

theorem IsNearest.extend {disk : Disk} {top place found : List String} {e : Entry}
    (h : IsNearest disk top place found e) {name : String}
    (hnone : fileAt? disk (place ++ [name]) = none) :
    IsNearest disk top (place ++ [name]) found e where
  below := h.below
  above := h.above.trans (List.prefix_append ..)
  file := h.file
  nearest q hfound hq hne := by
    rcases List.prefix_concat_iff.mp hq with rfl | hq
    · exact hnone
    · exact h.nearest q hfound hq hne

theorem FromNearest.extend {disk : Disk} {top place : List String}
    {usual result : Except LookupError Settings} (h : FromNearest disk top place usual result)
    {name : String} (hnone : fileAt? disk (place ++ [name]) = none) :
    FromNearest disk top (place ++ [name]) usual result := by
  cases h with
  | file h => exact .file (h.extend hnone)
  | usual htop h =>
      refine .usual (htop.trans (List.prefix_append ..)) fun q hbelow hq => ?_
      rcases List.prefix_concat_iff.mp hq with rfl | hq
      · exact hnone
      · exact h q hbelow hq

theorem FromNearest.below {disk : Disk} {top place : List String}
    {usual result : Except LookupError Settings} (h : FromNearest disk top place usual result) :
    top <+: place := by
  cases h with
  | file h => exact h.below.trans h.above
  | usual htop _ => exact htop

theorem FromNearest.eq_ofEntry {disk : Disk} {top place found : List String} {e : Entry}
    {usual result : Except LookupError Settings} (h : FromNearest disk top place usual result)
    (hnearest : IsNearest disk top place found e) : result = ofEntry e := by
  cases h with
  | usual _ h =>
      have hnone := h found hnearest.below hnearest.above
      rw [hnearest.file] at hnone
      cases hnone
  | @file other e' h =>
      -- of two places above one the longer one is below the other
      have hsame : other = found := by
        by_contra hne
        rcases List.prefix_or_prefix_of_prefix h.above hnearest.above with hle | hle
        · have hnone := h.nearest found hle hnearest.above (Ne.symm hne)
          rw [hnearest.file] at hnone
          cases hnone
        · have hnone := hnearest.nearest other hle h.above hne
          rw [h.file] at hnone
          cases hnone
      subst hsame
      rw [Option.some.inj (h.file.symm.trans hnearest.file)]

theorem fileOf?_of_reach {disk : Disk} {cs : List Component} {place : List String}
    (h : disk.reach cs = .ok place) : fileOf? disk cs = fileAt? disk place := by
  rw [fileOf?, h]
  rfl

/-- Components without `..` lead down, and the search comes back the
same way. -/
theorem fromNearest_append {disk : Disk} {lead rest : List Component}
    {base place : List String} {usual : Except LookupError Settings}
    (hlead : disk.reach lead = .ok base)
    (husual : findAt disk lead = (fileAt? disk base).elim usual ofEntry)
    (hrest : ∀ c ∈ rest, c ≠ .root ∧ c.text ≠ "..")
    (hplace : disk.reach (lead ++ rest) = .ok place) :
    FromNearest disk base place usual (findAt disk (lead ++ rest)) := by
  induction rest using List.reverseRecOn generalizing place with
  | nil =>
      rw [List.append_nil] at hplace ⊢
      obtain rfl := Except.ok.inj (hlead.symm.trans hplace)
      rw [husual]
      cases hfile : fileAt? disk base with
      | some e => exact .file (isNearest_self (List.prefix_refl base) hfile)
      | none =>
          refine .usual (List.prefix_refl base) fun q hbase hq => ?_
          rw [hq.eq_of_length_le hbase.length_le, hfile]
  | append_singleton rest c ih =>
      obtain ⟨hrest, hc⟩ := List.forall_mem_append.mp hrest
      obtain ⟨hroot, hup⟩ := List.forall_mem_singleton.mp hc
      rw [← List.append_assoc] at hplace ⊢
      have hfile := fileOf?_of_reach hplace
      rw [Disk.reach_concat] at hplace
      obtain ⟨middle, hmiddle, hstep⟩ := Disk.exists_of_bind hplace
      rw [Disk.enter_of_ne _ _ hroot] at hstep
      have hnearest := ih hrest hmiddle
      rw [findAt_concat disk _ hroot, hfile]
      have hplace := Disk.follow_eq_ok hstep hup
      cases hat : fileAt? disk place with
      | some e =>
          refine .file (isNearest_self (hnearest.below.trans ?_) hat)
          rcases hplace with rfl | rfl
          · exact List.prefix_refl place
          · exact List.prefix_append ..
      | none =>
          rcases hplace with rfl | rfl
          · exact hnearest
          · exact hnearest.extend hat

theorem findAt_nil (disk : Disk) :
    findAt disk [] = (fileAt? disk disk.workingDirectory).elim (.ok {}) ofEntry := by
  rw [findAt, Path.ancestorsOf, List.findSome?_singleton,
    fileOf?_of_reach (rfl : disk.reach [] = .ok disk.workingDirectory)]

theorem findAt_root (disk : Disk) :
    findAt disk [.root] = (fileAt? disk []).elim (.ok {}) ofEntry := by
  rw [findAt, Path.ancestorsOf, List.findSome?_singleton,
    fileOf?_of_reach (rfl : disk.reach [.root] = .ok [])]

/-- Without `..` the search goes through the directories that are
really above a place. -/
theorem findAt_of_not_up {disk : Disk} {cs : List Component} {place : List String}
    (h : IsNormal cs) (hup : .up ∉ cs) (hplace : disk.reach cs = .ok place) :
    FromNearest disk (if cs.head? = some .root then [] else disk.workingDirectory) place (.ok {})
      (findAt disk cs) := by
  have hinner {c : Component} (hc : c ∈ cs) (hc' : c.IsInner) : c ≠ .root ∧ c.text ≠ ".." :=
    ⟨hc'.ne_root, hc'.text_ne_up fun heq => hup (heq ▸ hc)⟩
  by_cases habsolute : cs.head? = some .root
  · rw [if_pos habsolute]
    obtain ⟨rest, rfl⟩ := List.head?_eq_some_iff.mp habsolute
    exact fromNearest_append (rfl : disk.reach [.root] = .ok []) (findAt_root disk)
      (fun c hc => hinner (List.mem_cons_of_mem _ hc) (h.2 c hc)) hplace
  · rw [if_neg habsolute]
    refine fromNearest_append (rfl : disk.reach [] = .ok disk.workingDirectory) (findAt_nil disk)
      ?_ hplace
    cases cs with
    | nil => simp
    | cons c cs =>
        refine List.forall_mem_cons.mpr
          ⟨?_, fun d hd => hinner (List.mem_cons_of_mem _ hd) (h.2 d hd)⟩
        rcases h.1 with rfl | rfl | hc
        · exact absurd rfl habsolute
        · decide
        · exact hinner List.mem_cons_self hc

/-- From where `..` leads, the search goes on in the directory that it
leads out of. -/
theorem findAt_of_up {disk : Disk} {front names : List Component} {place : List String}
    (h : IsNormal (front ++ .up :: names)) (hup : .up ∉ names)
    (hplace : disk.reach (front ++ .up :: names) = .ok place) :
    ∃ base, disk.reach (front ++ [.up]) = .ok base
      ∧ FromNearest disk base place (findAt disk front) (findAt disk (front ++ .up :: names)) := by
  rw [List.append_cons front .up names] at h hplace ⊢
  have hbase := hplace
  rw [Disk.reach, List.foldlM_append] at hbase
  obtain ⟨base, hbase, -⟩ := Disk.exists_of_bind hbase
  refine ⟨base, hbase, fromNearest_append hbase ?_ (fun c hc => ?_) hplace⟩
  · rw [findAt_concat disk front (by decide), fileOf?_of_reach hbase]
  · have hc' := Path.isInner_of_append h (by simp) c hc
    exact ⟨hc'.ne_root, hc'.text_ne_up fun heq => hup (heq ▸ hc)⟩

/-- The settings that hold in a directory are those of the nearest file
at or above it. Above the first directory of a relative path nothing is
looked for, and above a `..` the search goes on where it came from. -/
theorem find_nearest (disk : Disk) (start : String) (place : List String)
    (h : disk.Denotes start place) :
    (.up ∉ Path.components start →
      FromNearest disk (disk.top start) place (.ok {}) (find disk start))
    ∧ ∀ front names, Path.components start = front ++ .up :: names → .up ∉ names →
      ∃ base, disk.locate (Path.ofComponents (front ++ [.up])) = .ok base
        ∧ FromNearest disk base place (find disk (Path.ofComponents front)) (find disk start) := by
  have hnormal := Path.isNormal_components start
  rw [find_eq_findAt disk start]
  refine ⟨fun hup => findAt_of_not_up hnormal hup h.reach, fun front names hstart hup => ?_⟩
  have hplace := h.reach
  rw [hstart] at hnormal hplace ⊢
  have hfront := Path.isNormal_of_append hnormal
  obtain ⟨base, hbase, hnearest⟩ := findAt_of_up hnormal hup hplace
  refine ⟨base, ?_, ?_⟩
  · have hinner : Component.up.IsInner := trivial
    rw [disk.locate_ofComponents (Path.isNormal_concat hfront hinner) (by simp)
      (hinner.concat_ne_root front), hbase]
  · rw [find_eq_findAt, Path.components_ofComponents hfront]
    exact hnearest

/-- Settings at the top, and others two directories below. -/
def nested (workingDirectory : List String) : Disk where
  root := .directory
    [(fileName, .file "[output]\nformat = \"terminal\"\n".toUTF8),
     ("a", .directory
       [("b", .directory [(fileName, .file "[output]\nformat = \"json\"\n".toUTF8)])])]
  workingDirectory := workingDirectory

theorem find_nearest_nested : (nested []).Denotes "/a" ["a"]
    ∧ FromNearest (nested []) [] ["a"] (.ok {}) (find (nested []) "/a")
    ∧ (nested []).Denotes "a/b/.." ["a"]
    ∧ ∃ base, (nested []).locate "a/b/.." = .ok base
      ∧ FromNearest (nested []) base ["a"] (find (nested []) "a/b")
        (find (nested []) "a/b/..") := by
  have habove : (nested []).Denotes "/a" ["a"] := by rfl
  have hback : (nested []).Denotes "a/b/.." ["a"] := by rfl
  refine ⟨habove, (find_nearest _ "/a" ["a"] habove).1 (by decide +kernel), hback, ?_⟩
  exact (find_nearest _ "a/b/.." ["a"] hback).2 [.name "a", .name "b"] [] (by decide +kernel)
    (by simp)

theorem isNearest_nested (workingDirectory : List String) :
    IsNearest (nested workingDirectory) [] ["a"] []
      (.file "[output]\nformat = \"terminal\"\n".toUTF8) where
  below := List.prefix_refl []
  above := List.nil_prefix
  file := rfl
  nearest q _ hq hne := by
    rcases List.prefix_concat_iff.mp (show q <+: [] ++ ["a"] from hq) with rfl | hq
    · rfl
    · exact absurd (List.prefix_nil.mp hq) hne

theorem not_fromNearest_nested {workingDirectory : List String} {start : String}
    (h : (find (nested workingDirectory) start).toOption.map (·.output.format) =
      some "json") :
    ¬ FromNearest (nested workingDirectory) [] ["a"] (.ok {})
      (find (nested workingDirectory) start) := by
  have hformat : (ofEntry (.file "[output]\nformat = \"terminal\"\n".toUTF8)).toOption.map
      (·.output.format) = some "terminal" := by decide +kernel
  intro hnearest
  rw [hnearest.eq_ofEntry (isNearest_nested workingDirectory), hformat] at h
  exact absurd h (by decide)

/-- A `..` leads the search into a directory that is not above the one
it is made for, and from the working directory it does not get to the
root. -/
theorem find_passes_nearest :
    ((nested []).Denotes "a/b/.." ["a"]
      ∧ ¬ FromNearest (nested []) [] ["a"] (.ok {}) (find (nested []) "a/b/.."))
    ∧ (nested ["a"]).Denotes "." ["a"]
      ∧ ¬ FromNearest (nested ["a"]) [] ["a"] (.ok {}) (find (nested ["a"]) ".") :=
  ⟨⟨rfl, not_fromNearest_nested (by decide +kernel)⟩,
    rfl, not_fromNearest_nested (by decide +kernel)⟩

end Settings

end ScriptScout
