import ScriptScout.Files.Disk

/-!
# Files that are written and read

A text that was written to a path is read from that path
(`Disk.read_write`). Writing puts one file in place and leaves every
directory a directory with all the members it had, so a path that could
be followed can be followed still (`Disk.foldlM_follow_put`). Whether
a path can be written does not depend on the text: there has to be a
place for a file (`Disk.takes_of_target`), and where there is
none the disk stays as it was.
-/

namespace ScriptScout

/-! ## Entries -/

namespace Entry

theorem lookup_putMember (name other : String) (e : Entry) (members : List (String × Entry)) :
    (putMember name e members).lookup other =
      if other = name then some e else members.lookup other := by
  induction members with
  | nil =>
      by_cases h : other = name
      · simp [putMember, h]
      · simp [putMember, List.lookup_cons, beq_false_of_ne h, h]
  | cons m rest ih =>
      obtain ⟨n, old⟩ := m
      rw [putMember]
      by_cases hn : n = name
      · subst hn
        rw [if_pos (beq_self_eq_true n), List.lookup_cons, List.lookup_cons]
        by_cases h : other = n
        · simp [h]
        · simp [beq_false_of_ne h, h]
      · rw [if_neg (by simpa using hn), List.lookup_cons, List.lookup_cons, ih]
        by_cases h : other = n
        · subst h
          simp [hn]
        · rw [beq_false_of_ne h]

theorem get?_append (e : Entry) (names more : List String) :
    e.get? (names ++ more) = (e.get? names).bind (·.get? more) := by
  induction names generalizing e with
  | nil => rfl
  | cons name names ih =>
      rw [List.cons_append, get?, get?, Option.bind_assoc]
      exact Option.bind_congr fun inner _ => ih inner

/-- Only directories have members. -/
theorem exists_directory_of_get? {e inner : Entry} {name : String} {names : List String}
    (h : e.get? (name :: names) = some inner) :
    ∃ members next, e = directory members ∧ members.lookup name = some next
      ∧ next.get? names = some inner := by
  obtain ⟨next, hnext, hinner⟩ := Option.bind_eq_some_iff.mp h
  cases e with
  | file contents => cases hnext
  | directory members => exact ⟨members, next, rfl, hnext, hinner⟩

theorem get?_put_self (e placed : Entry) (names : List String) :
    (e.put placed names).get? names = some placed := by
  induction names generalizing e with
  | nil => rfl
  | cons name names ih =>
      simp only [put, get?, member?, lookup_putMember, if_true, Option.bind_some, ih]

/-- A directory that is not at the place of the new entry stays a
directory, and no member of it goes away. -/
theorem get?_put_directory {e placed : Entry} {names place : List String}
    {members : List (String × Entry)}
    (hplace : e.get? place = some (directory members))
    (hnames : ∀ ms, e.get? names ≠ some (directory ms)) :
    ∃ ms, (e.put placed names).get? place = some (directory ms)
      ∧ ∀ name, (members.lookup name).isSome = true → (ms.lookup name).isSome = true := by
  induction names generalizing e place with
  | nil =>
      cases place with
      | nil => exact absurd hplace (hnames members)
      | cons name place =>
          obtain ⟨ms, _, rfl, -⟩ := exists_directory_of_get? hplace
          exact absurd rfl (hnames ms)
  | cons name names ih =>
      cases place with
      | nil =>
          obtain rfl := Option.some.inj hplace
          refine ⟨_, rfl, fun other hother => ?_⟩
          rw [lookup_putMember]
          split
          · rfl
          · exact hother
      | cons part place =>
          obtain ⟨ms, next, rfl, hnext, hinner⟩ := exists_directory_of_get? hplace
          simp only [put, get?, member?, lookup_putMember]
          by_cases hpart : part = name
          · subst hpart
            rw [hnext, Option.getD_some, if_pos rfl, Option.bind_some]
            refine ih hinner fun ms' hms' => hnames ms' ?_
            simp only [get?, member?, hnext, Option.bind_some, hms']
          · rw [if_neg hpart, hnext, Option.bind_some]
            exact ⟨members, hinner, fun _ h => h⟩

end Entry

namespace Disk

theorem ok_bind {α β : Type} (a : α) (f : α → Except FileError β) : (Except.ok a >>= f) = f a :=
  rfl

theorem error_bind {α β : Type} (cause : FileError) (f : α → Except FileError β) :
    (Except.error cause >>= f) = .error cause :=
  rfl

/-! ## Paths -/

/-- There can be a file of the name in a directory: it is a name, and no
directory has it. -/
structure HasRoom (disk : Disk) (place : List String) (name : String) : Prop where
  is_name : (name == "" || name == "." || name == "..") = false
  is_free : ∃ members, disk.root.get? place = some (.directory members)
    ∧ ∀ ms, members.lookup name ≠ some (.directory ms)

theorem hasRoom_of_fileIn {disk : Disk} {place names : List String} {name : String}
    (h : disk.fileIn place name = .ok names) :
    disk.HasRoom place name ∧ names = place ++ [name] := by
  unfold fileIn at h
  split at h
  · next members hentry =>
      split at h
      · cases h
      · next hname =>
          split at h
          · cases h
          · next hfree =>
              refine ⟨⟨Bool.eq_false_iff.mpr hname, members, hentry, hfree⟩, ?_⟩
              exact (Except.ok.inj h).symm
  · cases h
  · cases h

/-- What writing to a path comes down to: its directory is there, and has
room for a file with the last part of the path as its name. -/
structure Takes (disk : Disk) (path : String) (place : List String) (name : String) : Prop where
  path_nonempty : path.isEmpty = false
  last_part : (disk.start path).2.getLast?.getD "" = name
  follows : (disk.start path).2.dropLast.foldlM disk.follow (disk.start path).1 = .ok place
  hasRoom : disk.HasRoom place name

theorem takes_of_target {disk : Disk} {path : String} {names : List String}
    (h : disk.target path = .ok names) :
    ∃ place name, disk.Takes path place name ∧ names = place ++ [name] := by
  unfold target at h
  split at h
  · cases h
  · next hempty =>
      cases hfollow : (disk.start path).2.dropLast.foldlM disk.follow (disk.start path).1 with
      | error cause =>
          simp only [hfollow, error_bind] at h
          cases h
      | ok place =>
          simp only [hfollow, ok_bind] at h
          obtain ⟨hroom, hnames⟩ := hasRoom_of_fileIn h
          exact ⟨place, _, ⟨Bool.eq_false_iff.mpr hempty, rfl, hfollow, hroom⟩, hnames⟩

/-! ## Reading -/

section

variable {disk : Disk} {names : List String}
  (hnames : ∀ ms, disk.root.get? names ≠ some (.directory ms)) (placed : Entry)
include hnames

/-- A step that could be taken can be taken still. -/
theorem follow_put {place next : List String} {part : String}
    (h : disk.follow place part = .ok next) :
    (disk.put placed names).follow place part = .ok next := by
  unfold follow at h
  split at h
  · next members hentry =>
      obtain ⟨ms, hms, hkept⟩ := @Entry.get?_put_directory _ placed _ _ _ hentry hnames
      rw [follow, put, hms]
      dsimp only
      split at h
      · next hhere =>
          rw [if_pos hhere]
          exact h
      · next hhere =>
          rw [if_neg hhere]
          split at h
          · next hup =>
              rw [if_pos hup]
              exact h
          · next hup =>
              rw [if_neg hup]
              split at h
              · next hmember =>
                  rw [if_pos (hkept part hmember)]
                  exact h
              · cases h
  · cases h
  · cases h

theorem foldlM_follow_put {place next parts : List String}
    (h : parts.foldlM disk.follow place = .ok next) :
    parts.foldlM (disk.put placed names).follow place = .ok next := by
  induction parts generalizing place with
  | nil => exact h
  | cons part parts ih =>
      rw [List.foldlM_cons] at h ⊢
      cases hstep : disk.follow place part with
      | error cause =>
          rw [hstep] at h
          cases h
      | ok mid =>
          rw [hstep] at h
          rw [follow_put hnames placed hstep]
          exact ih h

end

namespace Takes

variable {disk : Disk} {path name : String} {place : List String}
  (h : disk.Takes path place name)
include h

theorem not_directory (ms : List (String × Entry)) :
    disk.root.get? (place ++ [name]) ≠ some (.directory ms) := by
  obtain ⟨members, hmembers, hfree⟩ := h.hasRoom.is_free
  rw [Entry.get?_append, hmembers, Option.bind_some]
  intro hname
  obtain ⟨inner, hinner, heq⟩ := Option.bind_eq_some_iff.mp hname
  obtain rfl := Option.some.inj heq
  exact hfree ms hinner

theorem parts_eq : (disk.start path).2 = (disk.start path).2.dropLast ++ [name] := by
  have hlast := h.last_part
  cases hparts : (disk.start path).2.getLast? with
  | none =>
      rw [hparts] at hlast
      subst hlast
      exact absurd h.hasRoom.is_name (by decide)
  | some last =>
      rw [hparts] at hlast
      obtain rfl : last = name := hlast
      obtain ⟨before, hbefore⟩ := List.getLast?_eq_some_iff.mp hparts
      rw [hbefore, List.dropLast_concat]

/-- The path leads to what was put in place. -/
theorem locate_put (placed : Entry) :
    (disk.put placed (place ++ [name])).locate path = .ok (place ++ [name]) := by
  have hwalk := foldlM_follow_put h.not_directory placed h.follows
  obtain ⟨members, hmembers, -⟩ := h.hasRoom.is_free
  obtain ⟨ms, hms, -⟩ := @Entry.get?_put_directory _ placed _ _ _ hmembers h.not_directory
  have hlookup : (ms.lookup name).isSome = true := by
    have hself := Entry.get?_put_self disk.root placed (place ++ [name])
    rw [Entry.get?_append, hms, Option.bind_some] at hself
    obtain ⟨inner, hinner, -⟩ := Option.bind_eq_some_iff.mp hself
    exact Option.isSome_iff_exists.mpr ⟨inner, hinner⟩
  have hstep : (disk.put placed (place ++ [name])).follow place name = .ok (place ++ [name]) := by
    have hname := h.hasRoom.is_name
    simp only [Bool.or_eq_false_iff] at hname
    rw [follow, put, hms]
    simp only [hname, hlookup]
    rfl
  have hstart : (disk.put placed (place ++ [name])).start path = disk.start path := rfl
  simp only [locate, h.path_nonempty, hstart]
  rw [h.parts_eq, List.foldlM_append, hwalk, ok_bind, List.foldlM_cons, hstep]
  rfl

end Takes

/-- A text that was written is read. -/
theorem read_write {disk : Disk} {path : String} {names : List String}
    (h : disk.target path = .ok names) (text : String) :
    (disk.put (.file text.toUTF8) names).read path = .ok text := by
  obtain ⟨place, name, htakes, rfl⟩ := takes_of_target h
  have hself : (disk.put (.file text.toUTF8) (place ++ [name])).root.get? (place ++ [name]) =
      some (.file text.toUTF8) := Entry.get?_put_self ..
  have htext : String.fromUTF8? text.toUTF8 = some text := dif_pos text.isValidUTF8
  have hentry : (disk.put (.file text.toUTF8) (place ++ [name])).entry path =
      .ok (.file text.toUTF8) := by
    simp only [entry, htakes.locate_put, ok_bind, hself]
  simp only [read, hentry, ok_bind, htext]

end Disk

end ScriptScout
