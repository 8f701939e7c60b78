import Mathlib.Data.List.Basic
import ScriptScout.Files.Discovery
import ScriptScout.Proofs.DirectoryGlob

/-!
# Directories that are excluded

A pattern `name/` of the settings takes out of a search what is inside
the directory of that name in which the search starts, and nothing else
(`discover_exclude_directory`): directories of that name further down
are searched as if the pattern was not there.

Exclusions only ever pass something over, so their order does not
matter, and a rule among them can be looked at by itself
(`admits_insert`). A rule that fits all that is inside what it fits
then takes exactly what it fits out of a walk (`mem_walk_insert`); the
induction is over the tree of the directory.
-/

namespace ScriptScout

/-! ## Rules that pass over -/

namespace Ignore

/-- Has the rule something to say about a path? -/
def Rule.applies (r : Rule) (path : String) (directory : Bool) : Bool :=
  (directory || !r.directories) && r.glob.fits path

theorem judge_of_skip {rules : List Rule} (h : ∀ r ∈ rules, r.verdict = .skip) (path : String)
    (directory : Bool) : judge rules path directory =
      if rules.any (·.applies path directory) then some .skip else none := by
  rw [judge, ← List.any_reverse]
  have h : ∀ r ∈ rules.reverse, r.verdict = .skip := fun r hr => h r (List.mem_reverse.mp hr)
  generalize rules.reverse = rules at h
  induction rules with
  | nil => rfl
  | cons r rules ih =>
      obtain ⟨hr, hrules⟩ := List.forall_mem_cons.mp h
      rw [List.findSome?_cons, List.any_cons, ih hrules, hr, Rule.applies]
      cases (directory || !r.directories) && r.glob.fits path <;> rfl

theorem verdict_of_exclusion? {pattern : String} {r : Rule}
    (h : Rule.exclusion? pattern = some r) : r.verdict = .skip := by
  have hpattern {anchored : Bool} {cs : List Char}
      (h : Rule.ofPattern? false .skip anchored cs = some r) : r.verdict = .skip := by
    obtain ⟨glob, -, rfl⟩ := Option.map_eq_some_iff.mp h
    rfl
  rw [Rule.exclusion?, Rule.ofAnchorable?.eq_def] at h
  split at h
  · exact hpattern h
  · exact hpattern h

end Ignore

namespace Files

open Ignore (Rule Scope)

/-- The path of a member as exclusions see it. -/
def trailPath (trail : List String) : String := String.intercalate "/" trail

theorem admits_eq {exclusions : List Rule} (h : ∀ r ∈ exclusions, r.verdict = .skip)
    (scopes : List Scope) (trail : List String) (name : String) (directory : Bool) :
    admits exclusions scopes trail name directory =
      (!exclusions.any (·.applies (trailPath (trail ++ [name])) directory)
        && admits [] scopes trail name directory) := by
  have hnone : Ignore.judge [] (trailPath (trail ++ [name])) directory = none := rfl
  rw [trailPath] at hnone ⊢
  simp only [admits, Ignore.judge_of_skip h, hnone]
  cases exclusions.any (·.applies (String.intercalate "/" (trail ++ [name])) directory) <;> rfl

/-- Where a rule stands among exclusions does not matter. -/
theorem admits_insert {before after : List Rule} {r : Rule} (hr : r.verdict = .skip)
    (hrest : ∀ x ∈ before ++ after, x.verdict = .skip) (scopes : List Scope)
    (trail : List String) (name : String) (directory : Bool) :
    admits (before ++ r :: after) scopes trail name directory =
      (!r.applies (trailPath (trail ++ [name])) directory
        && admits (before ++ after) scopes trail name directory) := by
  have hall : ∀ x ∈ before ++ r :: after, x.verdict = .skip := by
    simpa [or_imp, forall_and, hr] using hrest
  rw [admits_eq hall, admits_eq hrest]
  simp only [List.any_append, List.any_cons]
  cases r.applies (trailPath (trail ++ [name])) directory <;> simp

/-! ## Walks -/

mutual

theorem walk_extends {exclusions : List Rule} {scopes : List Scope} {trail found : List String} :
    (e : Entry) → found ∈ walk exclusions scopes trail e → ∃ more, found = trail ++ more
  | .file _, h => ⟨[], by simpa [walk] using h⟩
  | .directory members, h => by
      rw [walk] at h
      obtain ⟨name, more, rfl⟩ := walkMembers_extends members h
      exact ⟨_, rfl⟩

theorem walkMembers_extends {exclusions : List Rule} {scopes : List Scope}
    {trail found : List String} : (members : List (String × Entry)) →
      found ∈ walkMembers exclusions scopes trail members →
      ∃ name more, found = trail ++ name :: more
  | [], h => by simp [walkMembers] at h
  | (name, e) :: members, h => by
      rw [walkMembers] at h
      rcases List.mem_append.mp h with h | h
      · split at h
        · obtain ⟨more, rfl⟩ := walk_extends e h
          exact ⟨name, more, by simp⟩
        · cases h
      · exact walkMembers_extends members h

end

/-- The rule passes over files and directories, and with what it fits
it fits all that is inside. -/
structure Closed (r : Rule) : Prop where
  skips : r.verdict = .skip
  anything : r.directories = false
  inside : ∀ trail more, r.glob.fits (trailPath trail) = true →
    r.glob.fits (trailPath (trail ++ more)) = true

mutual

/-- A closed rule takes exactly what it fits out of a walk. It is not
asked about where the walk starts. -/
theorem mem_walk_insert {before after : List Rule} {r : Rule} (hr : Closed r)
    (hrest : ∀ x ∈ before ++ after, x.verdict = .skip) {scopes : List Scope}
    {trail found : List String} : (e : Entry) →
    (found ∈ walk (before ++ r :: after) scopes trail e ↔
      found ∈ walk (before ++ after) scopes trail e
        ∧ (found = trail ∨ r.glob.fits (trailPath found) = false))
  | .file _ => by
      simp only [walk, List.mem_singleton]
      exact ⟨fun h => ⟨h, .inl h⟩, And.left⟩
  | .directory members => by
      simp only [walk]
      rw [mem_walkMembers_insert hr hrest members]
      refine and_congr_right fun h => ⟨.inr, ?_⟩
      rintro (rfl | hfits)
      · obtain ⟨name, more, hmore⟩ := walkMembers_extends members h
        simp at hmore
      · exact hfits

theorem mem_walkMembers_insert {before after : List Rule} {r : Rule} (hr : Closed r)
    (hrest : ∀ x ∈ before ++ after, x.verdict = .skip) {scopes : List Scope}
    {trail found : List String} : (members : List (String × Entry)) →
      (found ∈ walkMembers (before ++ r :: after) scopes trail members ↔
        found ∈ walkMembers (before ++ after) scopes trail members
          ∧ r.glob.fits (trailPath found) = false)
  | [] => by simp [walkMembers]
  | (name, e) :: members => by
      simp only [walkMembers, List.mem_append]
      rw [mem_walkMembers_insert hr hrest members, or_and_right]
      refine or_congr_left ?_
      have happlies : r.applies (trailPath (trail ++ [name])) (!e.isFile) =
          r.glob.fits (trailPath (trail ++ [name])) := by
        simp [Rule.applies, hr.anything]
      rw [admits_insert hr.skips hrest, happlies]
      cases admits (before ++ after) scopes trail name (!e.isFile) with
      | false => simp
      | true =>
          cases hfits : r.glob.fits (trailPath (trail ++ [name])) with
          | true =>
              -- nothing inside is entered, and the rule fits all of it
              have hnone (h : found ∈ walk (before ++ after) (scopes.map (·.descend name))
                  (trail ++ [name]) e) : r.glob.fits (trailPath found) = true := by
                obtain ⟨more, rfl⟩ := walk_extends e h
                exact hr.inside _ more hfits
              simpa using hnone
          | false =>
              rw [Bool.not_false, Bool.true_and, if_pos rfl, mem_walk_insert hr hrest e]
              refine and_congr_right fun _ => ⟨?_, .inr⟩
              rintro (rfl | h)
              · exact hfits
              · exact h

end

theorem trailPath_append {trail : List String} (h : trail ≠ []) (more : List String) :
    ∃ rest, trailPath (trail ++ more) = trailPath trail ++ rest := by
  cases more with
  | nil => exact ⟨"", by simp⟩
  | cons name more =>
      refine ⟨"/" ++ trailPath (name :: more), ?_⟩
      rw [trailPath, String.intercalate_append_of_ne_nil h (by simp), String.append_assoc]
      rfl

theorem closed_below (name : String) : Closed ⟨.skip, false, Glob.below name⟩ where
  skips := rfl
  anything := rfl
  inside trail more h := by
    obtain ⟨rest, hrest⟩ := Glob.fits_below.mp h
    have htrail : trail ≠ [] := by
      rintro rfl
      have hlength := congrArg String.length hrest
      have hslash : "/".length = 1 := rfl
      simp only [trailPath, String.intercalate_nil, String.length_append, hslash] at hlength
      exact absurd hlength (by simp; omega)
    obtain ⟨more', hmore⟩ := trailPath_append htrail more
    refine Glob.fits_below.mpr ⟨rest ++ more', ?_⟩
    rw [hmore, hrest, String.append_assoc]

/-! ## Patterns -/

theorem exclusionRules_cons_of_some {p : String} {r : Rule} (h : Rule.exclusion? p = some r)
    (patterns : List String) :
    exclusionRules (p :: patterns) = (exclusionRules patterns).map (r :: ·) := by
  rw [exclusionRules, List.mapM_cons, h, exclusionRules]
  rfl

theorem exclusionRules_cons_of_none {p : String} (h : Rule.exclusion? p = none)
    (patterns : List String) : exclusionRules (p :: patterns) = .error (.invalidPattern p) := by
  rw [exclusionRules, List.mapM_cons, h]
  rfl

theorem verdict_of_exclusionRules {patterns : List String} {rules : List Rule}
    (h : exclusionRules patterns = .ok rules) : ∀ r ∈ rules, r.verdict = .skip := by
  induction patterns generalizing rules with
  | nil =>
      obtain rfl := Except.ok.inj h
      simp
  | cons p patterns ih =>
      cases hp : Rule.exclusion? p with
      | none =>
          rw [exclusionRules_cons_of_none hp] at h
          cases h
      | some r =>
          rw [exclusionRules_cons_of_some hp] at h
          cases hrules : exclusionRules patterns with
          | error cause =>
              rw [hrules] at h
              cases h
          | ok rest =>
              rw [hrules] at h
              obtain rfl := Except.ok.inj h
              exact List.forall_mem_cons.mpr ⟨Ignore.verdict_of_exclusion? hp, ih hrules⟩

/-- One more pattern that can be read puts its rule among the others,
and takes no error away. -/
theorem exclusionRules_insert {p : String} {r : Rule} (h : Rule.exclusion? p = some r)
    (before after : List String) :
    (∃ cause, exclusionRules (before ++ after) = .error cause
        ∧ exclusionRules (before ++ p :: after) = .error cause)
      ∨ ∃ rs rs', exclusionRules (before ++ after) = .ok (rs ++ rs')
        ∧ exclusionRules (before ++ p :: after) = .ok (rs ++ r :: rs') := by
  induction before with
  | nil =>
      rw [List.nil_append, List.nil_append, exclusionRules_cons_of_some h]
      cases exclusionRules after with
      | error cause => exact .inl ⟨cause, rfl, rfl⟩
      | ok rules => exact .inr ⟨[], rules, rfl, rfl⟩
  | cons q before ih =>
      rw [List.cons_append, List.cons_append]
      cases hq : Rule.exclusion? q with
      | none =>
          simp only [exclusionRules_cons_of_none hq]
          exact .inl ⟨_, rfl, rfl⟩
      | some s =>
          simp only [exclusionRules_cons_of_some hq]
          rcases ih with ⟨cause, herror, herror'⟩ | ⟨rs, rs', hok, hok'⟩
          · rw [herror, herror']
            exact .inl ⟨cause, rfl, rfl⟩
          · rw [hok, hok']
            exact .inr ⟨s :: rs, rs', rfl, rfl⟩

/-! ## Paths -/

/-- The path lies inside the directory. -/
def IsInside (directory path : String) : Prop := ∃ rest, path = directory ++ "/" ++ rest

theorem ofNames_of_ne_nil {names : List String} (h : names ≠ []) :
    Path.ofNames names = "/" ++ trailPath names := by
  cases names with
  | nil => exact absurd rfl h
  | cons name names =>
      have htexts : (List.map Path.Component.name (name :: names)).map Path.Component.text =
          name :: names := by
        simp [Function.comp_def, Path.Component.text]
      have hparts : Path.ofNames (name :: names) = String.intercalate "/"
          (Path.Component.text .root ::
            (List.map Path.Component.name (name :: names)).map Path.Component.text) := rfl
      rw [hparts, htexts, String.intercalate_cons_cons]
      simp [Path.Component.text, trailPath]

/-- The path of what is below a place starts with the path of the
place. -/
theorem ofNames_append (place : List String) : ∃ lead,
    (Path.ofNames place).length ≤ lead.length
      ∧ ∀ trail ≠ [], Path.ofNames (place ++ trail) = lead ++ trailPath trail := by
  cases place with
  | nil => exact ⟨"/", by decide, fun trail h => ofNames_of_ne_nil h⟩
  | cons name place =>
      refine ⟨"/" ++ trailPath (name :: place) ++ "/", ?_, fun trail h => ?_⟩
      · rw [ofNames_of_ne_nil (by simp)]
        simp
      · rw [ofNames_of_ne_nil (by simp), trailPath,
          String.intercalate_append_of_ne_nil (by simp) h]
        simp [String.append_assoc, trailPath]

theorem isInside_ofNames {place trail : List String} {name : String} :
    IsInside (Path.ofNames (place ++ [name])) (Path.ofNames (place ++ trail)) ↔
      trail ≠ [] ∧ ∃ rest, trailPath trail = name ++ "/" ++ rest := by
  obtain ⟨lead, hlength, hlead⟩ := ofNames_append place
  have hname : Path.ofNames (place ++ [name]) = lead ++ name := by
    rw [hlead _ (by simp), trailPath, String.intercalate_singleton]
  cases trail with
  | nil =>
      simp only [ne_eq, not_true_eq_false, false_and, iff_false]
      rintro ⟨rest, hrest⟩
      have hlengths := congrArg String.length hrest
      have hslash : "/".length = 1 := rfl
      rw [List.append_nil, hname, String.length_append, String.length_append,
        String.length_append, hslash] at hlengths
      omega
  | cons part trail =>
      rw [IsInside, hname, hlead _ (by simp)]
      simp [String.append_assoc, String.append_right_inj]

theorem not_isInside_ofNames {place trail : List String} {name : String} :
    ¬ IsInside (Path.ofNames (place ++ [name])) (Path.ofNames (place ++ trail)) ↔
      trail = [] ∨ (Glob.below name).fits (trailPath trail) = false := by
  rw [isInside_ofNames, ← Glob.fits_below, not_and, Bool.not_eq_true]
  by_cases h : trail = [] <;> simp [h]

/-! ## Searches -/

theorem discover_of_error {disk : Disk} {start : String} {cause : FileError}
    (h : disk.locate start = .error cause) (extensions patterns : List String) :
    discover disk start extensions patterns = .error (.unreachable cause) := by
  rw [discover, h]
  rfl

theorem discover_of_invalid {disk : Disk} {start : String} {place : List String}
    (h : disk.locate start = .ok place) {patterns : List String} {cause : DiscoveryError}
    (hrules : exclusionRules patterns = .error cause) (extensions : List String) :
    discover disk start extensions patterns = .error cause := by
  rw [discover, h, hrules]
  rfl

/-- What a search finds: the files of the walk with one of the
extensions. -/
theorem mem_discover {disk : Disk} {start : String} {place : List String}
    (h : disk.locate start = .ok place) {patterns : List String} {rules : List Rule}
    (hrules : exclusionRules patterns = .ok rules) (extensions : List String) :
    ∃ paths, discover disk start extensions patterns = .ok paths
      ∧ ∀ p, p ∈ paths ↔ hasExtension extensions p = true ∧ ∃ e trail,
        disk.root.get? place = some e ∧ p = Path.ofNames (place ++ trail)
          ∧ trail ∈ walk rules (scopesAbove disk.root [] place) [] e := by
  rw [discover, h, hrules]
  refine ⟨_, rfl, fun p => ?_⟩
  rw [List.mem_mergeSort, List.mem_filter, and_comm]
  refine and_congr_right fun _ => ?_
  cases disk.root.get? place with
  | none => simp
  | some e => simp [eq_comm, and_comm]

/-- A pattern `name/` takes out of a search what is inside the
directory of that name where the search starts, and nothing else. -/
theorem discover_exclude_directory (disk : Disk) (start : String)
    (extensions before after : List String) (name : String) (hname : Rule.IsPlain name) :
    (∀ cause, discover disk start extensions (before ++ after) = .error cause →
      discover disk start extensions (before ++ (name ++ "/") :: after) = .error cause)
    ∧ ∀ found, discover disk start extensions (before ++ after) = .ok found →
      ∃ place kept, disk.locate start = .ok place
        ∧ discover disk start extensions (before ++ (name ++ "/") :: after) = .ok kept
        ∧ ∀ p, p ∈ kept ↔ p ∈ found ∧ ¬ IsInside (Path.ofNames (place ++ [name])) p := by
  cases hplace : disk.locate start with
  | error cause =>
      rw [discover_of_error hplace, discover_of_error hplace]
      exact ⟨fun _ h => h, fun _ h => by cases h⟩
  | ok place =>
      rcases exclusionRules_insert (Rule.exclusion?_directory hname) before after with
        ⟨cause, hrules, hrules'⟩ | ⟨rs, rs', hrules, hrules'⟩
      · rw [discover_of_invalid hplace hrules, discover_of_invalid hplace hrules']
        exact ⟨fun _ h => h, fun _ h => by cases h⟩
      · obtain ⟨found, hfound, hmem⟩ := mem_discover hplace hrules extensions
        obtain ⟨kept, hkept, hmem'⟩ := mem_discover hplace hrules' extensions
        have hskip := verdict_of_exclusionRules hrules
        rw [hfound, hkept]
        refine ⟨fun _ h => (by cases h), fun found' h => ⟨place, kept, rfl, rfl, fun p => ?_⟩⟩
        obtain rfl := Except.ok.inj h
        rw [hmem, hmem']
        constructor
        · rintro ⟨hext, e, trail, he, rfl, htrail⟩
          obtain ⟨htrail, hfits⟩ := (mem_walk_insert (closed_below name) hskip e).mp htrail
          exact ⟨⟨hext, e, trail, he, rfl, htrail⟩, not_isInside_ofNames.mpr hfits⟩
        · rintro ⟨⟨hext, e, trail, he, rfl, htrail⟩, hout⟩
          refine ⟨hext, e, trail, he, rfl, (mem_walk_insert (closed_below name) hskip e).mpr ?_⟩
          exact ⟨htrail, not_isInside_ofNames.mp hout⟩

/-- Dependencies at the top, and those of a package. -/
def dependencies : Disk where
  root := .directory
    [("node_modules", .directory [("top.js", .file .empty)]),
     ("pkg", .directory [("node_modules", .directory [("dep.js", .file .empty)])])]
  workingDirectory := []

theorem isPlain_node_modules : Rule.IsPlain "node_modules" where
  nonempty := by decide
  literal := by
    have htext : "node_modules".toList =
        ['n', 'o', 'd', 'e', '_', 'm', 'o', 'd', 'u', 'l', 'e', 's'] := rfl
    simp [htext, Glob.IsLiteral]

theorem discover_exclude_top : Rule.IsPlain "node_modules"
    ∧ ∃ found kept, discover dependencies "/" [".js"] [] = .ok found
      ∧ discover dependencies "/" [".js"] ["node_modules/"] = .ok kept
      ∧ "/node_modules/top.js" ∈ found ∧ "/node_modules/top.js" ∉ kept
      ∧ ∀ p, p ∈ kept ↔ p ∈ found ∧ ¬ IsInside "/node_modules" p := by
  have hplace : dependencies.locate "/" = .ok [] := by decide +kernel
  obtain ⟨found, hfound, hin⟩ := mem_discover hplace (rfl : exclusionRules [] = .ok [])
    [".js"]
  obtain ⟨place, kept, hlocate, hkept, hmem⟩ := (discover_exclude_directory dependencies "/"
    [".js"] [] [] "node_modules" isPlain_node_modules).2 found hfound
  obtain rfl := Except.ok.inj (hplace.symm.trans hlocate)
  have htop : "/node_modules/top.js" ∈ found :=
    (hin _).mpr ⟨by decide +kernel, dependencies.root, ["node_modules", "top.js"], rfl, rfl,
      by decide +kernel⟩
  have hinside : IsInside "/node_modules" "/node_modules/top.js" := ⟨"top.js", rfl⟩
  exact ⟨isPlain_node_modules, found, kept, hfound, hkept, htop,
    fun h => ((hmem _).mp h).2 hinside, hmem⟩

/-- The pattern does not reach the dependencies of a package. -/
theorem discover_exclude_nested : Rule.IsPlain "node_modules"
    ∧ ∃ kept, discover dependencies "/" [".js"] ["node_modules/"] = .ok kept
      ∧ Path.ofNames ["pkg", "node_modules", "dep.js"] ∈ kept :=
  ⟨isPlain_node_modules, [Path.ofNames ["pkg", "node_modules", "dep.js"]], by decide +kernel,
    List.mem_singleton_self _⟩

end Files

end ScriptScout
