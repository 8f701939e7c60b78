import Mathlib.Data.List.Forall2
import ScriptScout.Proofs.TomlNumber
import ScriptScout.Proofs.TomlString

/-!
# Settings files that are written and read

Data that are written as sections of pairs read back as they were
(`parse_write`), provided the names can stand without quotes and are
distinct, and each value by itself reads back.

A value is read in the same way whatever follows it, as long as that is
the end of its line or of its place in a list. The pairs of a section
are read one statement at a time; what the statements so far have put
into the document is known all the way (`Reads`).
-/

namespace ScriptScout.Toml

/-! ## Scalars -/

/-- The text is read as the value wherever a value can end. -/
def ReadAs (text : List Char) (j : Json) : Prop :=
  ∀ rest, Ends rest → readScalar (text ++ rest) = some (j, rest)

theorem ends_nil : Ends [] := fun _ hc => (Option.not_mem_none _ hc).elim

theorem ends_cons {c : Char} (h : c = '\n' ∨ c = ',' ∨ c = ']') (cs : List Char) :
    Ends (c :: cs) :=
  fun _ hc => Option.some.inj hc ▸ h

theorem readAs_bool (b : Bool) : ReadAs (if b then "true" else "false").toList (.bool b) := by
  intro rest _
  cases b <;> rfl

theorem readAs_string (s : String) : ReadAs (quote s).toList (.string s) := by
  intro rest hrest
  have hread : readString ((quote s).toList ++ rest) = some (s, rest) := by
    refine readString_quote s fun c hc => ?_
    rcases hrest c hc with rfl | rfl | rfl <;> decide
  have hquoted : readScalar ((quote s).toList ++ rest) =
      (readString ((quote s).toList ++ rest)).map fun p => (.string p.1, p.2) := by
    -- only texts that start with a quote are strings
    generalize (quote s).toList ++ rest = cs at hread
    cases cs with
    | nil => cases hread
    | cons c cs =>
        by_cases hdouble : c = '"'
        · subst hdouble
          rfl
        · by_cases hsingle : c = '\x27'
          · subst hsingle
            rfl
          · rw [readString] at hread
            · cases hread
            all_goals
              intro _ heq
              cases heq
              contradiction
  rw [hquoted, hread]
  rfl

/-- No value starts with a blank, a comment or a bracket. -/
theorem readScalar_eq_none {c : Char}
    (h : c ∈ [' ', '\t', '\n', '\r', '#', ']', '[', '\x7b']) (cs : List Char) :
    readScalar (c :: cs) = none := by
  simp only [List.mem_cons, List.not_mem_nil, or_false] at h
  rcases h with rfl | rfl | rfl | rfl | rfl | rfl | rfl | rfl <;>
    rw [readScalar_number (by decide), readMoment_letter (by decide)] <;> rfl

/-- The text starts with something other than blanks, a comment or a
bracket. -/
def Solid (cs : List Char) : Prop :=
  ∃ c more, cs = c :: more ∧ c ∉ [' ', '\t', '\n', '\r', '#', ']', '[', '\x7b']

theorem Solid.append {cs : List Char} (h : Solid cs) (rest : List Char) : Solid (cs ++ rest) := by
  obtain ⟨c, more, rfl, hc⟩ := h
  exact ⟨c, more ++ rest, rfl, hc⟩

theorem ReadAs.solid {text : List Char} {j : Json} (h : ReadAs text j) : Solid text := by
  have hread := h [] ends_nil
  rw [List.append_nil] at hread
  cases text with
  | nil => cases hread
  | cons c cs =>
      refine ⟨c, cs, rfl, fun hmem => ?_⟩
      rw [readScalar_eq_none hmem] at hread
      cases hread

theorem ReadAs.readValue {text rest : List Char} {j : Json} (h : ReadAs text j) (hrest : Ends rest)
    (depth : Nat) : readValue (depth + 1) (text ++ rest) = some (j, rest) := by
  rw [← h rest hrest]
  obtain ⟨c, more, rfl, hc⟩ := h.solid
  rw [List.cons_append, Toml.readValue]
  · rintro _ heq
    cases heq
    exact hc (by decide)
  · rintro _ heq
    cases heq
    exact hc (by decide)

/-! ## Blanks -/

/-- The text starts with neither a blank nor a comment. -/
def Dense (cs : List Char) : Prop := ∀ c ∈ cs.head?, c ∉ [' ', '\t', '\n', '\r', '#']

theorem Solid.dense {cs : List Char} (h : Solid cs) : Dense cs := by
  obtain ⟨c, more, rfl, hc⟩ := h
  intro d hd
  obtain rfl := Option.some.inj hd
  exact fun hmem => hc (List.mem_append_left [']', '[', '\x7b'] hmem)

theorem dense_cons {c : Char} (h : c ∉ [' ', '\t', '\n', '\r', '#']) (cs : List Char) :
    Dense (c :: cs) :=
  fun _ hd => Option.some.inj hd ▸ h

theorem Dense.skipSpaces {cs : List Char} (h : Dense cs) : skipSpaces cs = cs := by
  cases cs with
  | nil => rfl
  | cons c cs =>
      have hc := h c rfl
      simp only [List.mem_cons, not_or] at hc
      simp [Toml.skipSpaces, hc]

theorem Dense.skipComment {cs : List Char} (h : Dense cs) : skipComment cs = cs := by
  rw [Toml.skipComment]
  rintro more rfl
  exact h '#' rfl (by decide)

theorem Dense.afterBreak? {cs : List Char} (h : Dense cs) : afterBreak? cs = none := by
  rw [Toml.afterBreak?]
  · rintro more rfl
    exact h '\n' rfl (by decide)
  · rintro more rfl
    exact h '\r' rfl (by decide)

/-- Blanks at the front of a line are passed. -/
theorem skipLines_spaces {cs : List Char} (h : Dense cs) (n fuel : Nat) :
    skipLines (fuel + 1) (List.replicate n ' ' ++ cs) = cs := by
  have hspaces : skipSpaces (List.replicate n ' ' ++ cs) = cs := by
    rw [skipSpaces, List.dropWhile_append_of_pos]
    · exact h.skipSpaces
    · intro c hc
      rw [List.eq_of_mem_replicate hc]
      rfl
  rw [skipLines, hspaces, h.skipComment, h.afterBreak?]

theorem skipAll_dense {cs : List Char} (h : Dense cs) : skipAll cs = cs :=
  skipLines_spaces h 0 _

theorem skipAll_line {cs : List Char} (h : Dense cs) (n : Nat) :
    skipAll ('\n' :: (List.replicate n ' ' ++ cs)) = cs := by
  rw [skipAll, List.length_cons]
  exact skipLines_spaces h n _

/-! ## Lists -/

theorem readItems_close (item : List Char → Option (Json × List Char)) {cs rest : List Char}
    (h : skipAll cs = ']' :: rest) (fuel : Nat) :
    readItems item (fuel + 1) cs = some ([], rest) := by
  rw [readItems, h]
  rfl

/-- Anything but a bracket is the start of an item. -/
theorem readItems_item (item : List Char → Option (Json × List Char)) {cs text rest : List Char}
    {j : Json} (hskip : skipAll cs = text) (h : Solid text) (hitem : item text = some (j, rest))
    (fuel : Nat) :
    (∀ more, skipAll rest = ']' :: more → readItems item (fuel + 1) cs = some ([j], more))
      ∧ ∀ more, skipAll rest = ',' :: more → readItems item (fuel + 1) cs =
        (readItems item fuel more).map fun p => (j :: p.1, p.2) := by
  obtain ⟨c, text, rfl, hc⟩ := h
  have hne : c ≠ ']' := by
    rintro rfl
    exact hc (by decide)
  constructor
  · intro more hmore
    rw [readItems, hskip]
    simp [hne, hitem, hmore]
  · intro more hmore
    rw [readItems, hskip]
    simp [hne, hitem, hmore, Option.map_eq_bind]

/-- The items of a list, each on a line of its own. -/
def itemLines (texts : List (List Char)) : List Char :=
  texts.flatMap (fun t => '\n' :: (List.replicate 4 ' ' ++ t ++ [','])) ++ ['\n', ']']

theorem length_le_itemLines (texts : List (List Char)) :
    texts.length ≤ (itemLines texts).length := by
  rw [itemLines, List.length_append]
  exact Nat.le_add_right_of_le (length_le_flatMap (fun _ => List.cons_ne_nil _ _) texts)

theorem readItems_itemLines {depth : Nat} {texts : List (List Char)} {items : List Json}
    (h : List.Forall₂ ReadAs texts items) (rest : List Char) {fuel : Nat}
    (hfuel : items.length < fuel) :
    readItems (readValue (depth + 1)) fuel (itemLines texts ++ rest) = some (items, rest) := by
  induction h generalizing fuel with
  | nil =>
      obtain ⟨fuel, rfl⟩ := Nat.exists_eq_succ_of_ne_zero (Nat.ne_of_gt hfuel)
      exact readItems_close _ (@skipAll_line (']' :: rest) (dense_cons (by decide) _) 0) fuel
  | @cons t j texts items ht _ ih =>
      obtain ⟨fuel, rfl⟩ := Nat.exists_eq_succ_of_ne_zero (Nat.ne_of_gt (Nat.zero_lt_of_lt hfuel))
      have hline : itemLines (t :: texts) ++ rest =
          '\n' :: (List.replicate 4 ' ' ++ (t ++ ',' :: (itemLines texts ++ rest))) := by
        simp [itemLines]
      have hsolid := ht.solid.append (',' :: (itemLines texts ++ rest))
      have hitem := ht.readValue (ends_cons (.inr (.inl rfl)) (itemLines texts ++ rest)) depth
      have hcomma := skipAll_dense (@dense_cons ',' (by decide) (itemLines texts ++ rest))
      rw [hline, (readItems_item _ (skipAll_line hsolid.dense 4) hsolid hitem fuel).2 _ hcomma,
        ih (Nat.lt_of_succ_lt_succ hfuel)]
      rfl

theorem readItems_single {depth : Nat} {text : List Char} {j : Json} (h : ReadAs text j)
    (rest : List Char) (fuel : Nat) :
    readItems (readValue (depth + 1)) (fuel + 1) (text ++ ']' :: rest) = some ([j], rest) := by
  have hsolid := h.solid.append (']' :: rest)
  have hitem := h.readValue (ends_cons (.inr (.inr rfl)) rest) depth
  have hbracket := skipAll_dense (@dense_cons ']' (by decide) rest)
  exact (readItems_item _ (skipAll_dense hsolid.dense) hsolid hitem fuel).1 _ hbracket

/-- What is written of a list stands beside its items. -/
theorem forall₂_of_mapM {α β : Type} {f : α → Option β} {P : β → α → Prop} {xs : List α}
    (hP : ∀ x ∈ xs, ∀ y, f x = some y → P y x) {ys : List β} (h : xs.mapM f = some ys) :
    List.Forall₂ P ys xs := by
  induction xs generalizing ys with
  | nil =>
      cases h
      exact .nil
  | cons x xs ih =>
      rw [List.mapM_cons] at h
      obtain ⟨y, hy, h⟩ := Option.bind_eq_some_iff.mp h
      obtain ⟨ys, hys, h⟩ := Option.bind_eq_some_iff.mp h
      cases h
      exact .cons (hP x List.mem_cons_self y hy)
        (ih (fun x hx => hP x (List.mem_cons_of_mem _ hx)) hys)

theorem itemLines_eq (texts : List String) :
    '\n' :: ((texts.map fun t => "    " ++ t ++ ",\n").flatMap String.toList ++ [']']) =
      itemLines (texts.map String.toList) := by
  induction texts with
  | nil => rfl
  | cons t texts ih =>
      have hline : itemLines ((t :: texts).map String.toList) =
          '\n' :: (List.replicate 4 ' ' ++ t.toList ++
            ',' :: itemLines (texts.map String.toList)) := by
        simp [itemLines]
      rw [hline, ← ih]
      simp

theorem readValue_bracket (depth : Nat) (cs : List Char) :
    readValue (depth + 2) ('[' :: cs) =
      (readItems (readValue (depth + 1)) (cs.length + 2) cs).map fun p => (.array p.1, p.2) := by
  rw [Option.map_eq_bind]
  rfl

/-- A list reads back in each of its three forms. -/
theorem readValue_array {items : List Json} {text : String}
    (hitems : ∀ j ∈ items, ∀ t, scalarText? j = some t → ReadAs t.toList j)
    (h : valueText? (.array items) = some text) (depth : Nat) (rest : List Char) :
    ∃ inner, text.toList = '[' :: inner
      ∧ readValue (depth + 2) ('[' :: (inner ++ rest)) = some (.array items, rest) := by
  have hopen {inner : List Char}
      (hinner : readItems (readValue (depth + 1)) ((inner ++ rest).length + 2) (inner ++ rest) =
        some (items, rest)) :
      readValue (depth + 2) ('[' :: (inner ++ rest)) = some (.array items, rest) := by
    rw [readValue_bracket, hinner]
    rfl
  rw [valueText?] at h
  obtain ⟨texts, htexts, hform⟩ := Option.bind_eq_some_iff.mp h
  have hreads : List.Forall₂ (fun t j => ReadAs t.toList j) texts items :=
    forall₂_of_mapM hitems htexts
  rcases texts with _ | ⟨t, _ | ⟨u, texts⟩⟩
  · cases hform
    cases hreads
    refine ⟨[']'], rfl, hopen ?_⟩
    exact readItems_close _ (skipAll_dense (dense_cons (by decide) rest)) _
  · cases hform
    obtain ⟨j, items, ht, hnil, rfl⟩ := List.forall₂_cons_left_iff.mp hreads
    cases hnil
    refine ⟨t.toList ++ [']'], by simp, hopen ?_⟩
    rw [List.append_assoc]
    exact readItems_single ht rest _
  · cases hform
    have hlines : List.Forall₂ ReadAs ((t :: u :: texts).map String.toList) items :=
      List.forall₂_map_left_iff.mpr hreads
    refine ⟨itemLines ((t :: u :: texts).map String.toList), ?_, hopen ?_⟩
    · rw [← itemLines_eq]
      simp
    · refine readItems_itemLines hlines rest ?_
      rw [← hlines.length_eq, List.length_append]
      have hlength := length_le_itemLines ((t :: u :: texts).map String.toList)
      omega

/-! ## Values -/

/-- The value, if it has a text, reads back from it. -/
def ReadsBack (j : Json) : Prop :=
  ∀ text, valueText? j = some text → Dense text.toList
    ∧ ∀ rest, Ends rest → readValue nestingBound (text.toList ++ rest) = some (j, rest)

theorem readsBack_scalar {j : Json} (h : ∀ t, scalarText? j = some t → ReadAs t.toList j)
    (hj : valueText? j = scalarText? j) : ReadsBack j := by
  intro text htext
  have hread := h text (hj ▸ htext)
  exact ⟨hread.solid.dense, fun rest hrest => hread.readValue hrest _⟩

theorem readsBack_array {items : List Json}
    (h : ∀ j ∈ items, ∀ t, scalarText? j = some t → ReadAs t.toList j) :
    ReadsBack (.array items) := by
  intro text htext
  refine ⟨?_, fun rest _ => ?_⟩
  · obtain ⟨inner, hinner, -⟩ := readValue_array h htext 0 []
    rw [hinner]
    exact dense_cons (by decide) inner
  · obtain ⟨inner, hinner, hread⟩ := readValue_array h htext 78 rest
    rw [hinner]
    exact hread

/-! ## Names -/

/-- The name can stand without quotes. -/
def IsBareName (name : String) : Prop := name ≠ "" ∧ name.toList.all isBare = true

instance (name : String) : Decidable (IsBareName name) := inferInstanceAs (Decidable (_ ∧ _))

theorem IsBareName.exists_cons {name : String} (h : IsBareName name) :
    ∃ c cs, name.toList = c :: cs ∧ isBare c = true := by
  cases hname : name.toList with
  | nil => exact absurd (String.toList_eq_nil_iff.mp hname) h.1
  | cons c cs =>
      exact ⟨c, cs, rfl, List.all_eq_true.mp h.2 c (hname ▸ List.mem_cons_self)⟩

theorem not_mem_of_isBare {c : Char} (h : isBare c = true) :
    c ∉ [' ', '\t', '\n', '\r', '#', '[', '"', '\x27'] := by
  intro hmem
  simp only [List.mem_cons, List.not_mem_nil, or_false] at hmem
  rcases hmem with rfl | rfl | rfl | rfl | rfl | rfl | rfl | rfl <;> cases h

theorem readName_bare {name : String} (h : IsBareName name) {rest : List Char}
    (hrest : ∀ c ∈ rest.head?, isBare c = false) :
    readName (name.toList ++ rest) = some (name, rest) := by
  have htake : (name.toList ++ rest).takeWhile isBare = name.toList := by
    rw [List.takeWhile_append_of_pos (List.all_eq_true.mp h.2)]
    cases rest with
    | nil => simp
    | cons c rest => simp [hrest c rfl]
  have hdrop : (name.toList ++ rest).drop name.toList.length = rest := List.drop_left
  have hne : name.toList.isEmpty = false := by
    obtain ⟨c, cs, hname, -⟩ := h.exists_cons
    rw [hname]
    rfl
  rw [readName]
  · simp only [htake, hdrop, hne, Bool.false_eq_true, if_false, String.ofList_toList]
  all_goals
    obtain ⟨c, cs, hname, hc⟩ := h.exists_cons
    intro _ heq
    rw [hname] at heq
    cases heq
    cases hc

/-- A single name, and the blanks behind it. -/
theorem readKey_bare {name : String} (h : IsBareName name) {rest more : List Char}
    (hrest : ∀ c ∈ rest.head?, isBare c = false) (hskip : skipSpaces rest = more)
    (hmore : more.head? ≠ some '.') :
    readKey (name.toList ++ rest) = some (⟨[], name⟩, more) := by
  have hspaces : skipSpaces (name.toList ++ rest) = name.toList ++ rest := by
    obtain ⟨c, cs, hname, hc⟩ := h.exists_cons
    rw [hname]
    refine Dense.skipSpaces (dense_cons (fun hmem => not_mem_of_isBare hc ?_) _)
    exact List.mem_append_left ['[', '"', '\x27'] hmem
  have hnames (fuel : Nat) : readNames (fuel + 1) (name.toList ++ rest) = some ([name], more) := by
    rw [readNames, hspaces, readName_bare h hrest]
    simp only [Option.bind_eq_bind, Option.bind_some, hskip]
    split
    · exact absurd rfl hmore
    · rfl
  rw [readKey, hnames]
  rfl

/-! ## Statements -/

theorem readStatement_open {name : String} (h : IsBareName name) (rest : List Char) :
    readStatement ('[' :: (name.toList ++ ']' :: rest)) = some (.open ⟨[], name⟩, rest) := by
  have hkey : readKey (name.toList ++ ']' :: rest) = some (⟨[], name⟩, ']' :: rest) :=
    readKey_bare h (fun c hc => Option.some.inj hc ▸ rfl)
      (dense_cons (by decide) rest).skipSpaces (by simp)
  obtain ⟨c, cs, hname, hc⟩ := h.exists_cons
  have hne : c ≠ '[' := by
    rintro rfl
    cases hc
  rw [hname, List.cons_append] at hkey ⊢
  simp [readStatement, hne, hkey, afterMark?]

theorem readStatement_pair {name : String} (h : IsBareName name) {j : Json} (hj : ReadsBack j)
    {text : String} (htext : valueText? j = some text) (rest : List Char) :
    readStatement (name.toList ++ ' ' :: '=' :: ' ' :: (text.toList ++ '\n' :: rest)) =
      some (.pair ⟨[], name⟩ j, '\n' :: rest) := by
  obtain ⟨hdense, hread⟩ := hj text htext
  have hkey : readKey (name.toList ++ ' ' :: '=' :: ' ' :: (text.toList ++ '\n' :: rest)) =
      some (⟨[], name⟩, '=' :: ' ' :: (text.toList ++ '\n' :: rest)) :=
    readKey_bare h (fun c hc => Option.some.inj hc ▸ rfl) rfl (by simp)
  have hspaces : skipSpaces (' ' :: (text.toList ++ '\n' :: rest)) =
      text.toList ++ '\n' :: rest := by
    show skipSpaces (text.toList ++ '\n' :: rest) = _
    cases hcs : text.toList with
    | nil => rfl
    | cons c cs => exact (dense_cons (hdense c (hcs ▸ rfl)) _).skipSpaces
  have hpair : readPair (readValue nestingBound)
      (name.toList ++ ' ' :: '=' :: ' ' :: (text.toList ++ '\n' :: rest)) =
        some ((⟨[], name⟩, j), '\n' :: rest) := by
    simp [readPair, hkey, afterMark?, hspaces, hread _ (ends_cons (.inl rfl) rest)]
  obtain ⟨c, cs, hname, hc⟩ := h.exists_cons
  rw [hname, List.cons_append] at hpair ⊢
  have hne : c ≠ '[' := by
    rintro rfl
    cases hc
  rw [readStatement, hpair]
  · rfl
  · exact fun _ heq => hne (List.cons.inj heq).1
  · exact fun _ heq => hne (List.cons.inj heq).1

/-! ## Documents -/

/-- A section: its name and its pairs. -/
abbrev Section := String × List (String × Json)

def Section.toJson (s : Section) : String × Json := (s.1, .object s.2)

def pairItems (pairs : List (String × Json)) : Entries := pairs.map fun p => (p.1, .value p.2)

/-- The table that a section makes. -/
def Section.entry (s : Section) : String × Item := (s.1, .table .header (pairItems s.2))

theorem entriesJson_map {α : Type} (f : α → String × Item) (xs : List α) :
    entriesJson (xs.map f) = xs.map fun x => ((f x).1, (f x).2.toJson) := by
  induction xs with
  | nil => rfl
  | cons x xs ih => rw [List.map_cons, entriesJson, ih, List.map_cons]

theorem entriesJson_entry (sections : List Section) :
    entriesJson (sections.map Section.entry) = sections.map Section.toJson := by
  rw [entriesJson_map]
  refine List.map_congr_left fun s _ => ?_
  have hpairs : entriesJson (pairItems s.2) = s.2 := by
    rw [pairItems, entriesJson_map]
    simp [Item.toJson]
  simp only [Section.entry, Item.toJson, hpairs, Section.toJson]

@[simp] theorem map_fst_entry (sections : List Section) :
    (sections.map Section.entry).map Prod.fst = sections.map Prod.fst := by
  rw [List.map_map]
  rfl

@[simp] theorem map_fst_pairItems (pairs : List (String × Json)) :
    (pairItems pairs).map Prod.fst = pairs.map Prod.fst := by
  rw [pairItems, List.map_map]
  rfl

theorem lookup_of_not_mem {entries : Entries} {name : String}
    (h : name ∉ entries.map Prod.fst) : entries.lookup name = none := by
  rw [List.lookup_eq_none_iff]
  exact fun e he => bne_iff_ne.mpr fun heq => h (List.mem_map.mpr ⟨e, he, heq.symm⟩)

theorem replaceEntry_last {entries : Entries} {name : String} (h : name ∉ entries.map Prod.fst)
    (old new : Item) :
    replaceEntry name new (entries ++ [(name, old)]) = entries ++ [(name, new)] := by
  have hkept : entries.map (fun e => if e.1 == name then (name, new) else e) = entries := by
    refine (List.map_congr_left fun e he => ?_).trans (List.map_id _)
    rw [if_neg]
    · rfl
    · exact fun heq => h (List.mem_map.mpr ⟨e, he, beq_iff_eq.mp heq⟩)
  rw [replaceEntry, List.map_append, hkept]
  simp

/-- A header opens an empty table. -/
theorem apply_open {done : List Section} {name : String} (h : name ∉ done.map Prod.fst)
    (current : List String) :
    Document.apply ⟨done.map Section.entry, current⟩ (.open ⟨[], name⟩) =
      some ⟨(done ++ [(name, [])]).map Section.entry, [name]⟩ := by
  have hlookup : (done.map Section.entry).lookup name = none :=
    lookup_of_not_mem (map_fst_entry done ▸ h)
  simp [Document.apply, alterAt, openTable, hlookup, Key.full, Section.entry, pairItems]

/-- A pair goes into the table that was opened last. -/
theorem apply_pair {done : List Section} {name : String} (hname : name ∉ done.map Prod.fst)
    {pairs : List (String × Json)} {key : String} (hkey : key ∉ pairs.map Prod.fst) (j : Json) :
    Document.apply ⟨(done ++ [(name, pairs)]).map Section.entry, [name]⟩ (.pair ⟨[], key⟩ j) =
      some ⟨(done ++ [(name, pairs ++ [(key, j)])]).map Section.entry, [name]⟩ := by
  have hfresh : name ∉ (done.map Section.entry).map Prod.fst := map_fst_entry done ▸ hname
  have hlookup : (done.map Section.entry ++ [Section.entry (name, pairs)]).lookup name =
      some (.table .header (pairItems pairs)) := by
    rw [List.lookup_append, lookup_of_not_mem hfresh]
    simp [Section.entry]
  have hput : putPair [] key j .header (pairItems pairs) =
      some (pairItems (pairs ++ [(key, j)])) := by
    have hnone := lookup_of_not_mem (map_fst_pairItems pairs ▸ hkey)
    rw [putPair, alterAt, hnone]
    simp [pairItems]
  rw [List.map_append, List.map_append, List.map_singleton, List.map_singleton]
  simp only [Document.apply, alterAt, hlookup]
  simp only [hput, Section.entry, Option.bind_eq_bind, Option.bind_some, Option.pure_def,
    replaceEntry_last hfresh]
  rfl

/-! ## Whole files -/

/-- From one document to another by the statements of a text. -/
def Reads (d : Document) (cs : List Char) (d' : Document) : Prop :=
  ∀ fuel, cs.length < fuel → readStatements fuel d cs = some d'

theorem reads_nil (d : Document) : Reads d [] d := by
  intro fuel h
  obtain ⟨fuel, rfl⟩ := Nat.exists_eq_succ_of_ne_zero (Nat.ne_of_gt h)
  rfl

theorem Reads.break {d d' : Document} {cs : List Char} (h : Reads d cs d') :
    Reads d ('\n' :: cs) d' := by
  intro fuel hfuel
  obtain ⟨fuel, rfl⟩ := Nat.exists_eq_succ_of_ne_zero (Nat.ne_of_gt (Nat.zero_lt_of_lt hfuel))
  exact h fuel (Nat.lt_of_succ_lt_succ hfuel)

/-- One statement, which a line holds, and what follows. -/
theorem Reads.statement {d next d' : Document} {c : Char} {line rest : List Char}
    {statement : Statement} (hc : c ∉ [' ', '\t', '\n', '\r', '#'])
    (hread : readStatement (c :: (line ++ '\n' :: rest)) = some (statement, '\n' :: rest))
    (happly : d.apply statement = some next) (h : Reads next rest d') :
    Reads d (c :: (line ++ '\n' :: rest)) d' := by
  intro fuel hfuel
  obtain ⟨fuel, rfl⟩ := Nat.exists_eq_succ_of_ne_zero (Nat.ne_of_gt (Nat.zero_lt_of_lt hfuel))
  have hdense := dense_cons hc (line ++ '\n' :: rest)
  have hhash : (c == '#') = false := by
    refine beq_false_of_ne fun heq => hc ?_
    rw [heq]
    decide
  have hline : afterLine? ('\n' :: rest) = some rest := rfl
  have hrest : readStatements fuel next rest = some d' := by
    refine h fuel ?_
    simp only [List.length_cons, List.length_append] at hfuel
    omega
  rw [readStatements, hdense.skipSpaces]
  simp [hhash, hdense.afterBreak?, hread, happly, hline, hrest, bne]

/-- A section that has names of its own and values that read back. -/
structure Section.Tidy (s : Section) : Prop where
  bare : IsBareName s.1
  nodup : (s.2.map Prod.fst).Nodup
  pairs : ∀ p ∈ s.2, IsBareName p.1 ∧ ReadsBack p.2

/-- The pairs of a section are put behind those already read. -/
theorem Reads.pairs {done : List Section} {name : String} (hname : name ∉ done.map Prod.fst)
    {written pairs : List (String × Json)} (hpairs : ∀ p ∈ pairs, IsBareName p.1 ∧ ReadsBack p.2)
    (hnodup : ((written ++ pairs).map Prod.fst).Nodup) {texts : List String}
    (htexts : pairs.mapM pairText? = some texts) {rest : List Char} {d : Document}
    (h : Reads ⟨(done ++ [(name, written ++ pairs)]).map Section.entry, [name]⟩ rest d) :
    Reads ⟨(done ++ [(name, written)]).map Section.entry, [name]⟩
      ((String.join texts).toList ++ rest) d := by
  induction pairs generalizing written texts with
  | nil =>
      cases htexts
      simpa using h
  | cons p pairs ih =>
      obtain ⟨key, j⟩ := p
      obtain ⟨hkey, hj⟩ := hpairs _ List.mem_cons_self
      rw [List.mapM_cons] at htexts
      obtain ⟨line, hline, htexts⟩ := Option.bind_eq_some_iff.mp htexts
      obtain ⟨texts, hmore, htexts⟩ := Option.bind_eq_some_iff.mp htexts
      cases htexts
      obtain ⟨value, hvalue, hline⟩ := Option.bind_eq_some_iff.mp hline
      cases hline
      have hfresh : key ∉ written.map Prod.fst := by
        rw [List.map_append, List.nodup_append] at hnodup
        exact fun hmem => hnodup.2.2 key hmem key List.mem_cons_self rfl
      have hnext : Reads ⟨(done ++ [(name, written ++ [(key, j)])]).map Section.entry, [name]⟩
          ((String.join texts).toList ++ rest) d := by
        refine ih (fun p hp => hpairs p (List.mem_cons_of_mem _ hp)) ?_ hmore ?_
        · rwa [List.append_assoc]
        · rwa [List.append_assoc]
      have hread := readStatement_pair hkey hj hvalue ((String.join texts).toList ++ rest)
      obtain ⟨c, cs, hcs, hc⟩ := hkey.exists_cons
      have hsolid : c ∉ [' ', '\t', '\n', '\r', '#'] := fun hmem =>
        not_mem_of_isBare hc (List.mem_append_left ['[', '"', '\x27'] hmem)
      have htext : (String.join ((key ++ " = " ++ value ++ "\n") :: texts)).toList ++ rest =
          c :: ((cs ++ ' ' :: '=' :: ' ' :: value.toList) ++
            '\n' :: ((String.join texts).toList ++ rest)) := by
        simp [String.toList_join, hcs]
      rw [htext]
      refine Reads.statement hsolid ?_ (apply_pair hname hfresh j) hnext
      rw [← hread, hcs]
      simp

theorem Reads.section {done : List Section} {s : Section} (hs : s.Tidy)
    (hname : s.1 ∉ done.map Prod.fst) {text : String} (htext : sectionText? s.toJson = some text)
    {rest : List Char} {d : Document}
    (h : Reads ⟨(done ++ [s]).map Section.entry, [s.1]⟩ rest d) (current : List String) :
    Reads ⟨done.map Section.entry, current⟩ (text.toList ++ rest) d := by
  obtain ⟨name, pairs⟩ := s
  obtain ⟨texts, htexts, hform⟩ := Option.bind_eq_some_iff.mp htext
  cases hform
  have hpairs := @Reads.pairs done name hname [] pairs hs.pairs hs.nodup texts htexts rest d h
  have hread := readStatement_open hs.bare ('\n' :: ((String.join texts).toList ++ rest))
  have hline : ("[" ++ name ++ "]\n" ++ String.join texts).toList ++ rest =
      '[' :: ((name.toList ++ [']']) ++ '\n' :: ((String.join texts).toList ++ rest)) := by
    simp
  rw [hline]
  refine Reads.statement (by decide) ?_ (apply_open hname current) hpairs
  rw [← hread]
  simp

theorem Reads.sections {done sections : List Section} (hsections : ∀ s ∈ sections, s.Tidy)
    (hnodup : ((done ++ sections).map Prod.fst).Nodup) {texts : List String}
    (htexts : (sections.map Section.toJson).mapM sectionText? = some texts)
    (current : List String) : ∃ last, Reads ⟨done.map Section.entry, current⟩
      (String.intercalate "\n" texts).toList ⟨(done ++ sections).map Section.entry, last⟩ := by
  induction sections generalizing done texts current with
  | nil =>
      cases htexts
      exact ⟨current, by simpa using reads_nil _⟩
  | cons s sections ih =>
      rw [List.map_cons, List.mapM_cons] at htexts
      obtain ⟨text, htext, htexts⟩ := Option.bind_eq_some_iff.mp htexts
      obtain ⟨more, hmore, htexts⟩ := Option.bind_eq_some_iff.mp htexts
      cases htexts
      have hname : s.1 ∉ done.map Prod.fst := by
        rw [List.map_append, List.nodup_append] at hnodup
        exact fun hmem => hnodup.2.2 s.1 hmem s.1 List.mem_cons_self rfl
      have hassoc : done ++ s :: sections = (done ++ [s]) ++ sections := by simp
      obtain ⟨last, hlast⟩ := ih (fun s hs => hsections s (List.mem_cons_of_mem _ hs))
        (hassoc ▸ hnodup) hmore [s.1]
      rw [← hassoc] at hlast
      refine ⟨last, ?_⟩
      have hsection := hsections s List.mem_cons_self
      cases more with
      | nil =>
          have hread := Reads.section hsection hname htext hlast current
          simpa using hread
      | cons next more =>
          have hread := Reads.section hsection hname htext hlast.break current
          rw [String.intercalate_cons_cons]
          simpa using hread

/-- A file starts with a header. -/
theorem head?_sections {sections : List Section} {texts : List String}
    (h : (sections.map Section.toJson).mapM sectionText? = some texts) :
    ∀ c ∈ (String.intercalate "\n" texts).toList.head?, c = '[' := by
  intro c hc
  cases sections with
  | nil =>
      cases h
      cases hc
  | cons s sections =>
      rw [List.map_cons, List.mapM_cons] at h
      obtain ⟨text, htext, h⟩ := Option.bind_eq_some_iff.mp h
      obtain ⟨more, -, h⟩ := Option.bind_eq_some_iff.mp h
      cases h
      obtain ⟨lines, -, hform⟩ := Option.bind_eq_some_iff.mp htext
      cases hform
      cases more with
      | nil => simpa using hc.symm
      | cons next more =>
          rw [String.intercalate_cons_cons] at hc
          simpa using hc.symm

/-- What is written as sections reads back. -/
theorem parse_write {sections : List Section} (hsections : ∀ s ∈ sections, s.Tidy)
    (hnodup : (sections.map Prod.fst).Nodup) {text : String}
    (h : write? (.object (sections.map Section.toJson)) = some text) :
    parse text = some (.object (sections.map Section.toJson)) := by
  obtain ⟨texts, htexts, hform⟩ := Option.bind_eq_some_iff.mp h
  cases hform
  have hread : ∃ last, Reads {} (String.intercalate "\n" texts).toList
      ⟨sections.map Section.entry, last⟩ := by
    obtain ⟨last, hlast⟩ := @Reads.sections [] sections hsections hnodup texts htexts []
    exact ⟨last, hlast⟩
  obtain ⟨last, hread⟩ := hread
  -- there is no mark of the byte order to skip
  have hlead : Text.afterLead? ['\ufeff'] (String.intercalate "\n" texts).toList = none := by
    have hhead := head?_sections htexts
    cases hcs : (String.intercalate "\n" texts).toList with
    | nil => rfl
    | cons c cs =>
        rw [hcs] at hhead
        obtain rfl := hhead c rfl
        rfl
  simp only [parse, hlead, Option.getD_none]
  rw [hread _ (Nat.lt_succ_self _), Option.map_some, Document.toJson, entriesJson_entry]

/-! ## What can be written -/

theorem isSome_mapM {α β : Type} {f : α → Option β} {xs : List α} :
    (xs.mapM f).isSome = true ↔ ∀ x ∈ xs, (f x).isSome = true := by
  induction xs with
  | nil => simp
  | cons x xs ih =>
      rw [List.mapM_cons, List.forall_mem_cons, ← ih]
      cases f x with
      | none => simp
      | some y =>
          cases xs.mapM f with
          | none => simp
          | some ys => simp

theorem isSome_pairText? (p : String × Json) :
    (pairText? p).isSome = (valueText? p.2).isSome := by
  rw [pairText?]
  cases valueText? p.2 <;> rfl

theorem isSome_sectionText? (s : Section) :
    (sectionText? s.toJson).isSome = (s.2.mapM pairText?).isSome := by
  rw [Section.toJson, sectionText?]
  cases s.2.mapM pairText? <;> rfl

/-- Sections can be written if all their values can. -/
theorem isSome_write? (sections : List Section) :
    (write? (.object (sections.map Section.toJson))).isSome = true ↔
      ∀ s ∈ sections, ∀ p ∈ s.2, (valueText? p.2).isSome = true := by
  have hwrite : (write? (.object (sections.map Section.toJson))).isSome =
      ((sections.map Section.toJson).mapM sectionText?).isSome := by
    rw [write?]
    cases (sections.map Section.toJson).mapM sectionText? <;> rfl
  simp only [hwrite, isSome_mapM, List.forall_mem_map, isSome_sectionText?, isSome_pairText?]

end ScriptScout.Toml
