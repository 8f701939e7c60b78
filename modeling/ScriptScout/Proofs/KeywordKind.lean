import ScriptScout.Graphql.Plausible
import ScriptScout.Proofs.Text.Parts

/-!
# Keywords and kinds

The test that a text passes for a query and the kind that it is
reported under both look at its leading keyword, but not in the same
way. The test compares without case, and so takes the long s for an s.
The kind goes by the text in small letters, and the small form of the
long s is the long s.

`Opens` is what the two have in common: how the keyword is spelled that
a text opens with. There is at most one, since no keyword is the
beginning of another (`Opens.unique`). The kind is the one that belongs
to the keyword, unless the spelling has a long s (`kindOf_of_opens`).
-/

namespace ScriptScout.Graphql

open Text (trim fold foldChar foldChar_eq_toLower)

/-! ## Spellings -/

/-- Each keyword with the kind of the texts that it opens. -/
def keywordKinds : List (String × GraphqlKind) :=
  [("query", .query), ("mutation", .mutation), ("subscription", .subscription)]
    ++ (fragmentKeyword :: schemaKeywords).map (·, .schema)

/-- A text opens with a word that is spelled in some way: blanks aside,
its first characters are the word but for case. -/
structure Opens (cs : List Char) (word : String) (spelling : List Char) : Prop where
  spells : fold spelling = word.toList
  leads : spelling <+: trim cs

theorem mem_keywords {word : String} {kind : GraphqlKind} (h : (word, kind) ∈ keywordKinds) :
    word ∈ keywords := by
  rw [show keywords = keywordKinds.map (·.1) from rfl]
  exact List.mem_map.mpr ⟨_, h, rfl⟩

theorem exists_kind {word : String} (h : word ∈ keywords) :
    ∃ kind, (word, kind) ∈ keywordKinds := by
  rw [show keywords = keywordKinds.map (·.1) from rfl] at h
  obtain ⟨⟨_, kind⟩, hmem, rfl⟩ := List.mem_map.mp h
  exact ⟨kind, hmem⟩

theorem mem_keywords_of_schema {word : String} (h : word ∈ schemaKeywords) : word ∈ keywords :=
  List.mem_append_right _ (List.mem_cons_of_mem _ h)

/-- No keyword is the beginning of another. -/
theorem keywords_apart : ∀ word ∈ keywords, ∀ other ∈ keywords,
    word.toList.isPrefixOf other.toList = true → word = other := by
  decide

/-- The characters that fold in a way of their own stand in no keyword,
and neither does what the sign of the kelvin folds to. -/
theorem keywords_plain : ∀ word ∈ keywords,
    'ſ' ∉ word.toList ∧ 'K' ∉ word.toList ∧ 'k' ∉ word.toList := by
  decide

theorem eq_of_spelling_below {word word' : String} {spelling spelling' : List Char}
    (hword : word ∈ keywords) (hword' : word' ∈ keywords) (h : fold spelling = word.toList)
    (h' : fold spelling' = word'.toList) (hle : spelling <+: spelling') :
    word = word' ∧ spelling = spelling' := by
  have hwords : word.toList <+: word'.toList := by
    rw [← h, ← h']
    exact hle.map foldChar
  obtain rfl := keywords_apart word hword word' hword' <| List.isPrefixOf_iff_prefix.mpr hwords
  refine ⟨rfl, hle.eq_of_length ?_⟩
  have hlength := congrArg List.length (h.trans h'.symm)
  simpa only [fold, List.length_map] using hlength

/-- A text opens with one keyword at most, and in one spelling. -/
theorem Opens.unique {cs spelling spelling' : List Char} {word word' : String}
    (h : Opens cs word spelling) (h' : Opens cs word' spelling') (hword : word ∈ keywords)
    (hword' : word' ∈ keywords) : word = word' ∧ spelling = spelling' := by
  rcases List.prefix_or_prefix_of_prefix h.leads h'.leads with hle | hle
  · exact eq_of_spelling_below hword hword' h.spells h'.spells hle
  · obtain ⟨hwords, hspellings⟩ := eq_of_spelling_below hword' hword h'.spells h.spells hle
    exact ⟨hwords.symm, hspellings.symm⟩

/-! ## Readers -/

section

variable {cs : List Char} {word : String}

theorem isSome_afterWord?_iff :
    (afterWord? word (trim cs)).isSome = true ↔ ∃ spelling, Opens cs word spelling := by
  simp only [afterWord?]
  constructor
  · intro h
    by_cases hfold : (fold ((trim cs).take word.toList.length) == word.toList) = true
    · exact ⟨_, beq_iff_eq.mp hfold, List.take_prefix ..⟩
    · rw [if_neg hfold] at h
      cases h
  · rintro ⟨spelling, hspells, hleads⟩
    have hlength : spelling.length = word.toList.length := by
      rw [← hspells, fold, List.length_map]
    have htake : (trim cs).take word.toList.length = spelling := by
      rw [← hlength]
      exact (List.prefix_iff_eq_take.mp hleads).symm
    rw [htake, if_pos (beq_iff_eq.mpr hspells)]
    rfl

theorem isSome_afterAnyWord?_iff {words : List String} :
    (afterAnyWord? words (trim cs)).isSome = true ↔
      ∃ word ∈ words, ∃ spelling, Opens cs word spelling := by
  simp only [afterAnyWord?, List.findSome?_isSome_iff, isSome_afterWord?_iff]

/-! ## Small letters -/

/-- In small letters a keyword is recognized if it is recognized
without case and has no long s. -/
theorem map_toLower_eq_iff (hword : word ∈ keywords) {spelling : List Char} :
    spelling.map Char.toLower = word.toList ↔ fold spelling = word.toList ∧ 'ſ' ∉ spelling := by
  obtain ⟨hlong, hkelvin, hk⟩ := keywords_plain word hword
  constructor
  · intro h
    have hlower {c : Char} (hc : c ∈ spelling) : c.toLower ∈ word.toList :=
      h ▸ List.mem_map_of_mem hc
    have hnot : 'ſ' ∉ spelling := fun hc => hlong (hlower hc)
    refine ⟨?_, hnot⟩
    rw [← h]
    refine List.map_congr_left fun c hc => foldChar_eq_toLower ?_ ?_
    · rintro rfl
      exact hnot hc
    · rintro rfl
      exact hkelvin (hlower hc)
  · rintro ⟨h, hnot⟩
    rw [← h]
    refine List.map_congr_left fun c hc => (foldChar_eq_toLower ?_ ?_).symm
    · rintro rfl
      exact hnot hc
    · rintro rfl
      exact hk (h ▸ List.mem_map_of_mem hc)

theorem leads_iff (hword : word ∈ keywords) :
    word.toList.isPrefixOf ((trim cs).map Char.toLower) = true ↔
      ∃ spelling, Opens cs word spelling ∧ 'ſ' ∉ spelling := by
  refine List.isPrefixOf_iff_prefix.trans ?_
  rw [List.prefix_map_iff]
  constructor
  · rintro ⟨spelling, hleads, heq⟩
    obtain ⟨hspells, hnot⟩ := (map_toLower_eq_iff hword).mp heq.symm
    exact ⟨spelling, ⟨hspells, hleads⟩, hnot⟩
  · rintro ⟨spelling, ⟨hspells, hleads⟩, hnot⟩
    exact ⟨spelling, hleads, ((map_toLower_eq_iff hword).mpr ⟨hspells, hnot⟩).symm⟩

end

/-! ## Kinds -/

/-- The kind that belongs to the first keyword with a property. -/
def firstKind (leads : String → Bool) : GraphqlKind :=
  ((keywordKinds.find? fun p => leads p.1).map (·.2)).getD .other

theorem find?_map_constant (leads : String → Bool) (kind : GraphqlKind) (words : List String) :
    ((words.map (·, kind)).find? fun p => leads p.1).map (·.2) =
      if words.any leads then some kind else none := by
  induction words with
  | nil => rfl
  | cons word words ih =>
      cases h : leads word with
      | true => simp [h]
      | false => simpa [h] using ih

theorem firstKind_eq (leads : String → Bool) :
    firstKind leads =
      if leads "query" then .query
      else if leads "mutation" then .mutation
      else if leads "subscription" then .subscription
      else if (fragmentKeyword :: schemaKeywords).any leads then .schema
      else .other := by
  have hschema := find?_map_constant leads .schema (fragmentKeyword :: schemaKeywords)
  rw [firstKind, keywordKinds]
  cases hquery : leads "query" with
  | true => simp [hquery]
  | false =>
      cases hmutation : leads "mutation" with
      | true => simp [hquery, hmutation]
      | false =>
          cases hsubscription : leads "subscription" with
          | true => simp [hquery, hmutation, hsubscription]
          | false =>
              simp only [List.cons_append, List.nil_append, List.find?_cons, hquery, hmutation,
                hsubscription, hschema]
              split <;> rfl

/-- The kind of a text belongs to the keyword that it leads with in
small letters. -/
theorem kindOf_eq_firstKind (s : String) :
    kindOf s = firstKind fun word =>
      word.toList.isPrefixOf ((trim s.toList).map Char.toLower) := by
  rw [firstKind_eq]
  rfl

theorem keywordKinds_functional : ∀ p ∈ keywordKinds, ∀ q ∈ keywordKinds, p.1 = q.1 → p = q := by
  decide

theorem firstKind_of_unique {leads : String → Bool} {word : String} {kind : GraphqlKind}
    (hword : (word, kind) ∈ keywordKinds) (hleads : leads word = true)
    (hunique : ∀ other ∈ keywords, leads other = true → other = word) :
    firstKind leads = kind := by
  cases hfind : keywordKinds.find? fun p => leads p.1 with
  | none => exact absurd hleads (List.find?_eq_none.mp hfind _ hword)
  | some p =>
      have hmem : p ∈ keywordKinds := List.mem_of_find?_eq_some hfind
      have hfound : leads p.1 = true := by simpa using List.find?_some hfind
      have hfirst : p.1 = word := hunique _ (mem_keywords hmem) hfound
      rw [firstKind, hfind, keywordKinds_functional p hmem _ hword hfirst]
      rfl

theorem firstKind_of_none {leads : String → Bool}
    (h : ∀ word ∈ keywords, ¬leads word = true) : firstKind leads = .other := by
  have hfind : (keywordKinds.find? fun p => leads p.1) = none :=
    List.find?_eq_none.mpr fun p hp => h p.1 (mem_keywords hp)
  rw [firstKind, hfind]
  rfl

/-- A text that opens with a keyword has the kind that belongs to it,
unless the keyword is spelled with a long s. -/
theorem kindOf_of_opens {s word : String} {kind : GraphqlKind} {spelling : List Char}
    (hword : (word, kind) ∈ keywordKinds) (h : Opens s.toList word spelling) :
    kindOf s = if 'ſ' ∈ spelling then .other else kind := by
  have hmem := mem_keywords hword
  rw [kindOf_eq_firstKind]
  split
  · next hlong =>
      -- A keyword in small letters would be a second spelling, one without a long s.
      refine firstKind_of_none fun other hother hleads => ?_
      obtain ⟨spelling', hopens, hnot⟩ := (leads_iff hother).mp hleads
      rw [(hopens.unique h hother hmem).2] at hnot
      exact hnot hlong
  · next hnot =>
      refine firstKind_of_unique hword ((leads_iff hmem).mpr ⟨spelling, h, hnot⟩) ?_
      intro other hother hleads
      obtain ⟨spelling', hopens, -⟩ := (leads_iff hother).mp hleads
      exact (hopens.unique h hother hmem).1

theorem kindOf_of_not_opens {s : String}
    (h : ∀ word ∈ keywords, ∀ spelling, ¬Opens s.toList word spelling) : kindOf s = .other := by
  rw [kindOf_eq_firstKind]
  refine firstKind_of_none fun word hword hleads => ?_
  obtain ⟨spelling, hopens, -⟩ := (leads_iff hword).mp hleads
  exact h word hword spelling hopens

/-! ## Accepted texts -/

/-- What a text without the blanks around it is accepted as, by the
keyword that it opens with. -/
inductive AcceptedAs (h : HeuristicSettings) (cs : List Char) : String → Prop
  | operation {word : String} (hword : word ∈ operationKeywords)
      (hshape : isPlausibleOperation h cs = true) : AcceptedAs h cs word
  | fragment (hshape : isFragmentShape cs = true) (hbraces : isBalanced cs = true) :
      AcceptedAs h cs fragmentKeyword
  | schema {word : String} (hword : word ∈ schemaKeywords)
      (hshape : isPlausibleSchema h cs = true) : AcceptedAs h cs word

theorem exists_acceptedAs {h : HeuristicSettings} {s : String} (hs : isPlausible h s = true) :
    ∃ word ∈ keywords, (∃ spelling, Opens s.toList word spelling)
      ∧ AcceptedAs h (trim s.toList) word := by
  simp only [isPlausible, Bool.and_eq_true] at hs
  obtain ⟨-, hs⟩ := hs
  split at hs
  · next hkeyword =>
      obtain ⟨word, hword, hopens⟩ := isSome_afterAnyWord?_iff.mp hkeyword
      exact ⟨word, List.mem_append_left _ hword, hopens, .operation hword hs⟩
  · split at hs
    · next hkeyword =>
        have hopens := isSome_afterWord?_iff.mp hkeyword
        obtain ⟨hshape, hbraces⟩ := Bool.and_eq_true_iff.mp hs
        exact ⟨fragmentKeyword, by decide, hopens, .fragment hshape hbraces⟩
    · split at hs
      · next hkeyword =>
          obtain ⟨word, hword, hopens⟩ := isSome_afterAnyWord?_iff.mp hkeyword
          exact ⟨word, mem_keywords_of_schema hword, hopens, .schema hword hs⟩
      · cases hs

/-- What has the shape of a schema leads with a keyword in small
letters. -/
theorem exists_leads_of_hasSchemaShape {cs : List Char} (h : hasSchemaShape cs = true) :
    ∃ word ∈ schemaKeywords, word.toList.isPrefixOf (cs.map Char.toLower) = true := by
  by_contra hnone
  have hfalse : ∀ word ∈ schemaKeywords,
      word.toList.isPrefixOf (cs.map Char.toLower) = false := fun word hword =>
    Bool.eq_false_iff.mpr fun hleads => hnone ⟨word, hword, hleads⟩
  have htype := hfalse "type" (by decide)
  have hinput := hfalse "input" (by decide)
  have henum := hfalse "enum" (by decide)
  have hinterface := hfalse "interface" (by decide)
  have hunion := hfalse "union" (by decide)
  have hscalar := hfalse "scalar" (by decide)
  have hdirective := hfalse "directive" (by decide)
  simp only [hasSchemaShape, htype, hinput, henum, hinterface, hunion, hscalar, hdirective] at h
  cases h

theorem long_s_not_mem_of_schema {s word : String} {spelling : List Char}
    (h : Opens s.toList word spelling) (hword : word ∈ keywords)
    (hshape : hasSchemaShape (trim s.toList) = true) : 'ſ' ∉ spelling := by
  obtain ⟨other, hother, hleads⟩ := exists_leads_of_hasSchemaShape hshape
  have hmem := mem_keywords_of_schema hother
  obtain ⟨spelling', hopens, hnot⟩ := (leads_iff hmem).mp hleads
  rwa [(hopens.unique h hmem hword).2] at hnot

theorem s_mem_of_long_s_mem {cs spelling : List Char} {word : String} (h : Opens cs word spelling)
    (hlong : 'ſ' ∈ spelling) : 's' ∈ word.toList := by
  rw [← h.spells]
  exact List.mem_map.mpr ⟨'ſ', hlong, rfl⟩

/-- Of the keywords that are accepted in any spelling one has an s. -/
theorem eq_subscription_of_long_s {h : HeuristicSettings} {s word : String} {spelling : List Char}
    (hopens : Opens s.toList word spelling) (hword : word ∈ keywords)
    (haccepted : AcceptedAs h (trim s.toList) word) (hlong : 'ſ' ∈ spelling) :
    word = "subscription" := by
  have hs := s_mem_of_long_s_mem hopens hlong
  cases haccepted with
  | operation hoperation hshape =>
      have honly : ∀ word ∈ operationKeywords, 's' ∈ word.toList → word = "subscription" := by
        decide
      exact honly word hoperation hs
  | fragment hshape hbraces => exact absurd hs (by decide)
  | schema hschema hshape =>
      -- The shape of a schema is tested in small letters, as the kind is.
      simp only [isPlausibleSchema, Bool.and_eq_true] at hshape
      exact absurd hlong (long_s_not_mem_of_schema hopens hword hshape.1.1.1.2)

/-- **An accepted text has the kind of the keyword that it was accepted
for,** whatever the case of its letters and the blanks around it, with
one exception: a `subscription` that is spelled with a long s is
accepted as one and has no kind of its own. -/
theorem kindOf_of_isPlausible {h : HeuristicSettings} {s : String} (hs : isPlausible h s = true) :
    ∃ word kind spelling, (word, kind) ∈ keywordKinds ∧ Opens s.toList word spelling
      ∧ (∀ other ∈ keywords, ∀ spelling', Opens s.toList other spelling' → other = word)
      ∧ AcceptedAs h (trim s.toList) word
      ∧ kindOf s = (if 'ſ' ∈ spelling then .other else kind)
      ∧ ('ſ' ∈ spelling → word = "subscription") := by
  obtain ⟨word, hword, ⟨spelling, hopens⟩, haccepted⟩ := exists_acceptedAs hs
  obtain ⟨kind, hkind⟩ := exists_kind hword
  refine ⟨word, kind, spelling, hkind, hopens, ?_, haccepted, kindOf_of_opens hkind hopens,
    eq_subscription_of_long_s hopens hword haccepted⟩
  intro other hother spelling' hopens'
  exact (hopens'.unique hopens hother hword).1

/-- Blanks around it and capital letters do not matter. -/
theorem kindOf_of_isPlausible_capitals :
    isPlausible {} "\n  MUTATION AddUser \x7b addUser \x7b id \x7d \x7d " = true
      ∧ kindOf "\n  MUTATION AddUser \x7b addUser \x7b id \x7d \x7d " = .mutation := by
  have hpass :
      isPlausible {} "\n  MUTATION AddUser \x7b addUser \x7b id \x7d \x7d " = true := by decide
  refine ⟨hpass, ?_⟩
  obtain ⟨word, kind, spelling, hkind, hopens, hunique, -, hkindOf, hlong⟩ :=
    kindOf_of_isPlausible hpass
  obtain rfl : "mutation" = word := hunique _ (by decide) "MUTATION".toList ⟨by decide, by decide⟩
  have hnot : 'ſ' ∉ spelling := fun hmem => absurd (hlong hmem) (by decide)
  have hmutation : ("mutation", kind) = ("mutation", GraphqlKind.mutation) :=
    keywordKinds_functional _ hkind _ (by decide) rfl
  rw [hkindOf, if_neg hnot]
  exact (Prod.mk.inj hmutation).2

/-- A long s passes for an s in the test, but not in the kind. -/
theorem kindOf_of_isPlausible_long_s :
    isPlausible {} "ſubscription X \x7b aaaa bbbb \x7d" = true
      ∧ kindOf "ſubscription X \x7b aaaa bbbb \x7d" = .other := by
  decide

end ScriptScout.Graphql
