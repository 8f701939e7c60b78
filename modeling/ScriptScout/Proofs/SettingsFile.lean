import ScriptScout.Proofs.DiskWrite
import ScriptScout.Proofs.Records
import ScriptScout.Proofs.TomlText
import ScriptScout.Settings.File

/-!
# Settings that are saved and loaded

Settings can be saved unless one of their natural numbers has more than
63 bits, and what was saved is loaded again, whatever the strings among
the settings hold. The numbers that are not whole are asked to have
decimal texts that read back as the same doubles. Where saving fails,
the disk is as it was before, with the file that may stand there.
-/

namespace ScriptScout

/-! ## Values of settings -/

namespace Toml

open Json (Codec)

theorem readsBack_bool (b : Bool) : ReadsBack (Codec.bool.write b) :=
  readsBack_scalar (fun _ ht => Option.some.inj ht ▸ readAs_bool b) rfl

theorem readsBack_string (s : String) : ReadsBack (Codec.string.write s) :=
  readsBack_scalar (fun _ ht => Option.some.inj ht ▸ readAs_string s) rfl

theorem readsBack_nat (n : Nat) : ReadsBack (Codec.nat.write n) := by
  refine readsBack_scalar (fun t ht rest hrest => ?_) rfl
  simp only [Codec.nat, scalarText?, numberText?] at ht
  split at ht
  · next hlong =>
      obtain rfl := Option.some.inj ht
      exact readScalar_nat hlong hrest
  · cases ht

theorem readsBack_real {x : Float}
    (h : x.isFinite = true → Decimal.read? (realText x) = some x) :
    ReadsBack (Codec.real.write x) :=
  readsBack_scalar (fun _ ht _ hrest => Option.some.inj ht ▸ readScalar_real h hrest) rfl

theorem readsBack_strings (xs : List String) : ReadsBack ((Codec.list Codec.string).write xs) := by
  refine readsBack_array fun j hj t ht => ?_
  obtain ⟨s, -, rfl⟩ := List.mem_map.mp hj
  exact Option.some.inj ht ▸ readAs_string s

end Toml

namespace Settings

open Json (Codec)
open Toml (Section)

/-- The settings that are natural numbers. -/
def naturals (s : Settings) : List Nat :=
  [s.analysis.maxTraversalDepth, s.analysis.minPathLength, s.analysis.maxPathLength,
    s.heuristics.schemaKeywordLimit, s.heuristics.graphqlMinLength, s.heuristics.schemaMinLength,
    s.heuristics.selectionMinLength]

/-- The settings that are doubles. -/
def reals (s : Settings) : List Float :=
  [s.analysis.confidenceThreshold, s.heuristics.entropyThreshold, s.heuristics.apiBonus,
    s.heuristics.extensionBonus, s.heuristics.queryBonus, s.heuristics.mimeBonus,
    s.heuristics.propertyBonus, s.heuristics.httpCallBonus]

/-- The sections of a settings file. -/
def sections (s : Settings) : List Section := [
  ("analysis", Codec.members analysisFields s.analysis),
  ("heuristics", Codec.members heuristicFields s.heuristics),
  ("modules", Codec.members moduleFields s.modules),
  ("ignore", Codec.members ignoreFields s.ignore),
  ("output", Codec.members outputFields s.output)]

theorem toJson_eq (s : Settings) : s.toJson = .object (s.sections.map Section.toJson) := rfl

/-! ## What can be written -/

theorem isSome_valueText?_nat (n : Nat) :
    (Toml.valueText? (Codec.nat.write n)).isSome = true ↔ n < 2 ^ 63 := by
  have hlong : Toml.isLong n = true ↔ n < 2 ^ 63 := by
    exact decide_eq_true_iff
  have htext : Toml.valueText? (Codec.nat.write n) =
      if Toml.isLong n then some (toString (n : Int)) else none := rfl
  rw [htext, ← hlong]
  cases Toml.isLong n <;> simp

theorem isSome_valueText?_strings (xs : List String) :
    (Toml.valueText? ((Codec.list Codec.string).write xs)).isSome = true := by
  have hitems : ((xs.map Codec.string.write).mapM Toml.scalarText?).isSome = true := by
    rw [Toml.isSome_mapM, List.forall_mem_map]
    exact fun _ _ => rfl
  obtain ⟨texts, htexts⟩ := Option.isSome_iff_exists.mp hitems
  simp only [Codec.list, Toml.valueText?, htexts, Option.bind_eq_bind, Option.bind_some]
  split <;> rfl

theorem isSome_toToml?_iff (s : Settings) :
    s.toToml?.isSome = true ↔ ∀ n ∈ s.naturals, n < 2 ^ 63 := by
  have hbool (b : Bool) : (Toml.valueText? (Codec.bool.write b)).isSome = true := rfl
  have hstring (t : String) : (Toml.valueText? (Codec.string.write t)).isSome = true := rfl
  have hreal (x : Float) : (Toml.valueText? (Codec.real.write x)).isSome = true := rfl
  rw [toToml?, toJson_eq, Toml.isSome_write?]
  simp only [sections, List.forall_mem_cons, Codec.forall_mem_members, analysisFields,
    heuristicFields, moduleFields, ignoreFields, outputFields, Json.Field.get_ofDefault,
    Option.mem_some_iff, forall_eq', hbool, hstring, hreal, isSome_valueText?_nat,
    isSome_valueText?_strings, naturals]
  simp [and_assoc]

/-! ## What is read -/

theorem tidy_members {σ : Type} {name : String} {fields : List (Json.Field σ)} {s : σ}
    (hname : Toml.IsBareName name) (hkeys : (fields.map (·.key)).Nodup)
    (hbare : ∀ key ∈ fields.map (·.key), Toml.IsBareName key)
    (hreads : ∀ f ∈ fields, ∀ j ∈ f.get s, Toml.ReadsBack j) :
    Section.Tidy (name, Codec.members fields s) where
  bare := hname
  nodup := List.pairwise_map.mpr (Codec.members_distinct hkeys s)
  pairs := Codec.forall_mem_members.mpr fun f hf j hj =>
    ⟨hbare _ (List.mem_map.mpr ⟨f, hf, rfl⟩), hreads f hf j hj⟩

theorem sections_tidy {s : Settings}
    (hreals : ∀ x ∈ s.reals, x.isFinite = true → Decimal.read? (Toml.realText x) = some x) :
    ∀ sec ∈ s.sections, Section.Tidy sec := by
  have hread : ∀ x ∈ s.reals, Toml.ReadsBack (Codec.real.write x) :=
    fun x hx => Toml.readsBack_real (hreals x hx)
  simp only [reals, List.forall_mem_cons] at hread
  simp only [sections, List.forall_mem_cons]
  refine ⟨?analysis, ?heuristics, ?modules, ?ignore, ?output, by simp⟩
  all_goals
    refine tidy_members (by decide) (by decide) (by decide) ?_
    simp only [analysisFields, heuristicFields, moduleFields, ignoreFields, outputFields,
      List.forall_mem_cons, Json.Field.get_ofDefault, Option.mem_some_iff, forall_eq',
      Toml.readsBack_bool, Toml.readsBack_string, Toml.readsBack_nat, Toml.readsBack_strings, hread]
    simp

section

open Json.Codec Json.Field

variable {k : Json → Json} (hk : Json.Faithful k)
include hk

theorem analysis_returns (a : AnalysisSettings) :
    (record true analysisFields {}).Returns k a a := by
  refine record_returns hk (by decide) ?_
  refine foldlM_copy_cons (copy_ofDefault (real_returns hk _)) ?_
  iterate 3
    refine foldlM_copy_cons (copy_ofDefault (nat_returns hk _)) ?_
  iterate 6
    refine foldlM_copy_cons (copy_ofDefault (bool_returns hk _)) ?_
  exact foldlM_copy_cons (copy_ofDefault (bool_returns hk _)) rfl

theorem heuristics_returns (h : HeuristicSettings) :
    (record true heuristicFields {}).Returns k h h := by
  refine record_returns hk (by decide) ?_
  refine foldlM_copy_cons (copy_ofDefault (real_returns hk _)) ?_
  iterate 4
    refine foldlM_copy_cons (copy_ofDefault (nat_returns hk _)) ?_
  iterate 5
    refine foldlM_copy_cons (copy_ofDefault (real_returns hk _)) ?_
  exact foldlM_copy_cons (copy_ofDefault (real_returns hk _)) rfl

theorem modules_returns (m : ModuleSettings) : (record true moduleFields {}).Returns k m m := by
  refine record_returns hk (by decide) ?_
  iterate 4
    refine foldlM_copy_cons (copy_ofDefault (bool_returns hk _)) ?_
  exact foldlM_copy_cons (copy_ofDefault (bool_returns hk _)) rfl

theorem ignore_returns (i : IgnoreSettings) : (record true ignoreFields {}).Returns k i i :=
  record_returns hk (by decide) (foldlM_copy_cons (copy_ofDefault (strings_returns hk _)) rfl)

theorem output_returns (o : OutputSettings) : (record true outputFields {}).Returns k o o := by
  refine record_returns hk (by decide) ?_
  refine foldlM_copy_cons (copy_ofDefault (string_returns hk _)) ?_
  exact foldlM_copy_cons (copy_ofDefault (bool_returns hk _)) rfl

/-- All that there is to settings is read. -/
theorem codec_returns (s : Settings) : (codec true).Returns k s s := by
  refine record_returns hk (by decide) ?_
  refine foldlM_copy_cons (copy_ofDefault (analysis_returns hk _)) ?_
  refine foldlM_copy_cons (copy_ofDefault (heuristics_returns hk _)) ?_
  refine foldlM_copy_cons (copy_ofDefault (modules_returns hk _)) ?_
  refine foldlM_copy_cons (copy_ofDefault (ignore_returns hk _)) ?_
  exact foldlM_copy_cons (copy_ofDefault (output_returns hk _)) rfl

end

theorem ofToml?_toToml? {s : Settings}
    (hreals : ∀ x ∈ s.reals, x.isFinite = true → Decimal.read? (Toml.realText x) = some x)
    {text : String} (h : s.toToml? = some text) : ofToml? text = some s := by
  have hnames : ["analysis", "heuristics", "modules", "ignore", "output"].Nodup := by decide
  have hparse : Toml.parse text = some s.toJson :=
    Toml.parse_write (sections_tidy hreals) hnames h
  have hread : (codec true).read s.toJson = some s := codec_returns Json.faithful_id s
  rw [ofToml?, hparse]
  exact hread

/-! ## Files -/

/-- The text is made first, and is all that is written. -/
theorem save_of_toToml? {s : Settings} {text : String} (h : s.toToml? = some text) (disk : Disk)
    (path : String) : s.save disk path =
      ((disk.write path text).1.mapError .unreadable, (disk.write path text).2) := by
  simp only [save, h]

theorem load_put {s : Settings} {text : String} {disk : Disk} {path : String}
    {names : List String} (htext : ofToml? text = some s) (h : disk.target path = .ok names) :
    load (disk.put (.file text.toUTF8) names) path = .ok s := by
  simp only [load, Disk.read_write h text, Except.mapError]
  simp [bind, Except.bind, htext]

/-- Settings with a number that is too large are not saved, and nothing
on the disk changes. All others are saved if the disk takes a file at
the path; if it takes none, it stays as it was. What is saved is loaded
again, where the doubles among it are read as they are written. -/
theorem load_save (s : Settings) (disk : Disk) (path : String) :
    ((∃ n ∈ s.naturals, 2 ^ 63 ≤ n) → s.save disk path = (.error .malformed, disk))
      ∧ ((∀ n ∈ s.naturals, n < 2 ^ 63) →
        (∀ cause, (disk.write path "").1 = .error cause →
          s.save disk path = (.error (.unreadable cause), disk))
        ∧ ((disk.write path "").1 = .ok () →
          ∃ saved, s.save disk path = (.ok (), saved)
            ∧ ((∀ x ∈ s.reals, x.isFinite = true → Decimal.read? (Toml.realText x) = some x) →
              load saved path = .ok s))) := by
  constructor
  · rintro ⟨n, hn, hlarge⟩
    have hnone : s.toToml? = none := by
      rw [← Option.not_isSome_iff_eq_none, isSome_toToml?_iff]
      exact fun hsmall => absurd (hsmall n hn) (Nat.not_lt.mpr hlarge)
    simp only [save, hnone]
  · intro hsmall
    obtain ⟨text, htext⟩ := Option.isSome_iff_exists.mp ((isSome_toToml?_iff s).mpr hsmall)
    rw [save_of_toToml? htext]
    cases htarget : disk.target path with
    | error failure =>
        simp only [Disk.write, htarget]
        refine ⟨fun cause hcause => ?_, fun hok => ?_⟩
        · rw [← Except.error.inj hcause]
          rfl
        · cases hok
    | ok names =>
        simp only [Disk.write, htarget]
        refine ⟨fun cause hcause => ?_, fun _ => ⟨_, rfl, fun hreals => ?_⟩⟩
        · cases hcause
        · exact load_put (ofToml?_toToml? hreals htext) htarget

/-- Settings that strain a file: numbers that are not finite or have
many digits, and strings with quotes, control characters and breaks. -/
def awkward : Settings where
  analysis := { confidenceThreshold := 0 / 0, maxPathLength := 2 ^ 63 - 1 }
  heuristics := { entropyThreshold := -1 / 0, mimeBonus := 0.1 + 0.2 }
  ignore := { paths := ["\"'\\", "\ttwo\r\nlines '''\"\"\"\x07", "", "é\ufeff🙂"] }
  output := { format := "it's \\n" }

/-- A directory, and beside it a settings file. -/
def occupied : Disk :=
  ⟨.directory [("app", .directory []), ("set.toml", .file "[output]\n".toUTF8)], ["app"]⟩

/-- The awkward settings take the place of the file. With a number that
is larger by one they fail, and the file keeps its text. -/
theorem load_save_awkward :
    let large := { awkward with analysis := { maxPathLength := 2 ^ 63 } }
    (∀ x ∈ awkward.reals, x.isFinite = true → Decimal.read? (Toml.realText x) = some x)
      ∧ (∀ n ∈ awkward.naturals, n < 2 ^ 63)
      ∧ (∃ saved, awkward.save occupied "./../set.toml" = (.ok (), saved)
        ∧ load saved "./../set.toml" = .ok awkward)
      ∧ (∃ n ∈ large.naturals, 2 ^ 63 ≤ n)
      ∧ large.save occupied "./../set.toml" = (.error .malformed, occupied)
      ∧ occupied.read "./../set.toml" = .ok "[output]\n" := by
  intro large
  have hreals : ∀ x ∈ awkward.reals,
      x.isFinite = true → Decimal.read? (Toml.realText x) = some x := by decide +kernel
  have hnaturals : ∀ n ∈ awkward.naturals, n < 2 ^ 63 := by decide
  obtain ⟨saved, hsaved, hload⟩ := ((load_save awkward occupied "./../set.toml").2 hnaturals).2 rfl
  have hlarge : ∃ n ∈ large.naturals, 2 ^ 63 ≤ n := ⟨2 ^ 63, by decide, Nat.le_refl _⟩
  have hfailed := (load_save large occupied "./../set.toml").1 hlarge
  exact ⟨hreals, hnaturals, ⟨saved, hsaved, hload hreals⟩, hlarge, hfailed, by decide +kernel⟩

end Settings

end ScriptScout
