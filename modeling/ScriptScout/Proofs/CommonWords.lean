import ScriptScout.Proofs.Independence
import ScriptScout.Proofs.Text.Parts

/-!
# Common words never get to be excluded

The last condition of the gate turns down common words, if the settings
ask for it. Nothing is left for it to turn down: a text that has got so
far has a slash and a letter in it, and no common word has both
(`slash_not_mem_of_isCommonWord`). A digit of whatever script is no slash,
and whatever folds to a slash is one.

So the gate gives one answer under either setting, and since no detector
reads the setting anywhere else, every run has one result.
-/

namespace ScriptScout

namespace Url

/-! ## Common words at the gate -/

/-- A common word with a letter has no slash. -/
theorem slash_not_mem_of_isCommonWord {cs : List Char} (h : isCommonWord cs = true)
    (hletter : cs.any Char.isAlpha = true) : '/' ∉ cs := by
  intro hslash
  simp only [isCommonWord, Bool.or_eq_true, Bool.and_eq_true] at h
  rcases h with (((⟨-, hall⟩ | ⟨-, hall⟩) | ⟨-, hall⟩) | ⟨-, hall⟩) | hword
  · exact absurd (List.all_eq_true.mp hall '/' hslash) (by decide)
  · exact absurd (List.all_eq_true.mp hall '/' hslash) (by decide)
  · -- A run of slashes is the one that has no letter.
    obtain ⟨c, hc, halpha⟩ := List.any_eq_true.mp hletter
    rw [beq_iff_eq.mp (List.all_eq_true.mp hall c hc)] at halpha
    exact absurd halpha (by decide)
  · exact absurd (List.all_eq_true.mp hall '/' hslash) (by decide)
  · obtain ⟨word, hmem, heq⟩ := List.any_eq_true.mp hword
    have hfolded : '/' ∈ word.toList := beq_iff_eq.mp heq ▸ Text.mem_fold_of_mem hslash
    refine absurd hfolded ((?_ : ∀ w ∈ _, '/' ∉ String.toList w) word hmem)
    decide

end Url

/-- The settings with common words excluded or not. -/
def Settings.excluding (s : Settings) (exclude : Bool) : Settings :=
  { s with analysis := { s.analysis with excludeCommonWords := exclude } }

namespace Url

/-- The gate is the gate without the last condition, and that one. -/
theorem isCandidate_eq (s : Settings) (value : String) :
    isCandidate s value = (isCandidate (s.excluding false) value
      && !(s.analysis.excludeCommonWords && isCommonWord value.toList)) := by
  simp only [isCandidate, Settings.excluding, Bool.false_and, Bool.not_false, Bool.and_true]
  rfl

/-- A text with a slash and a letter and the rest that the gate asks for
is no common word. -/
theorem not_isCommonWord_of_isCandidate {s : Settings} {value : String}
    (h : isCandidate s value = true) : isCommonWord value.toList = false := by
  simp only [isCandidate, Bool.and_eq_true] at h
  obtain ⟨⟨⟨⟨⟨⟨⟨⟨-, hletter⟩, -⟩, -⟩, hslash⟩, -⟩, -⟩, -⟩, -⟩ := h
  cases hword : isCommonWord value.toList with
  | false => rfl
  | true =>
      have hmem : '/' ∈ value.toList := List.contains_iff_mem.mp hslash
      exact absurd hmem (slash_not_mem_of_isCommonWord hword hletter)

theorem isCandidate_excluding_false (s : Settings) (value : String) :
    isCandidate (s.excluding false) value = isCandidate s value := by
  rw [isCandidate_eq s]
  cases hcandidate : isCandidate (s.excluding false) value with
  | false => rfl
  | true =>
      rw [not_isCommonWord_of_isCandidate hcandidate, Bool.and_false]
      rfl

/-- The gate gives the same answer under either setting. -/
theorem isCandidate_excluding (s : Settings) (exclude : Bool) (value : String) :
    isCandidate (s.excluding exclude) value = isCandidate s value := by
  rw [← isCandidate_excluding_false (s.excluding exclude), ← isCandidate_excluding_false s]
  rfl

end Url

/-! ## Runs -/

theorem UrlUse.judge?_excluding (s : Settings) (exclude : Bool) (value : String)
    (site : Url.Site) : judge? (s.excluding exclude) value site = judge? s value site := by
  have hclass : Url.classify (s.excluding exclude) value site = Url.classify s value site := rfl
  simp only [judge?, Url.isCandidate_excluding, hclass]
  rfl

namespace Analysis

/-- Only the gate for addresses reads whether common words are
excluded. -/
theorem look_excluding (d : Detector) (s : Settings) (exclude : Bool) (source : String) :
    d.look (Scene.of source (s.excluding exclude)) = d.look (Scene.of source s) := by
  cases d with
  | urls => exact UrlUse.step_congr source (UrlUse.judge?_excluding s exclude) rfl rfl
  | _ => rfl

/-- Two settings under which the same detectors look at the same nodes
in the same way give the same findings. -/
theorem analyzeTree_congr {settings other : Settings} {source : String} {root : Node}
    (hmodules : settings.modules = other.modules)
    (hvisited : visited settings root = visited other root)
    (hlook : ∀ d : Detector, d.look (Scene.of source settings) = d.look (Scene.of source other)) :
    analyzeTree settings source root = analyzeTree other source root := by
  refine Findings.eq_of_of fun d => ?_
  cases hon : d.isEnabled other.modules with
  | false =>
      rw [analyzeTree_of_disabled hon, analyzeTree_of_disabled (hmodules ▸ hon)]
  | true =>
      rw [analyzeTree_of_enabled hon, analyzeTree_of_enabled (hmodules ▸ hon), hvisited, hlook]

/-- **Excluding common words makes no difference.** The gate takes the
same texts under either setting, and a run over any tree finds the
same. -/
theorem analyzeTree_excluding (settings : Settings) (exclude : Bool) :
    (∀ value, Url.isCandidate (settings.excluding exclude) value =
        Url.isCandidate settings value)
      ∧ ∀ source root, analyzeTree (settings.excluding exclude) source root =
        analyzeTree settings source root := by
  constructor
  · intro value
    exact Url.isCandidate_excluding settings exclude value
  · intro source root
    exact analyzeTree_congr rfl rfl fun d => look_excluding d settings exclude source

end Analysis

end ScriptScout
