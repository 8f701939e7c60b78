import Mathlib.Data.Option.Basic
import Mathlib.Data.String.Basic
import ScriptScout.Proofs.JsonNumber

/-!
# Reading what was written

The text of a value reads back, in either style, as the value with the
members of its objects in order (`parse_write`). What is asked of the
value is that it nests no deeper than the reader follows and that each
of its numbers reads back by itself (`Fits`).

`ReadAs` is the invariant of the readers: they read a text and leave
what follows it, whatever that is, as long as it does not go on with
the digits of a number (`Stops`). The induction is on the bound for
the nesting; numbers, strings and the items between brackets are
settled before it.
-/

namespace ScriptScout.Json

/-! ## Strings -/

/-- Control characters are written by their code. -/
theorem readUnicode_control (n : Nat) (h : n < 0x20) (cs : List Char) :
    readUnicode ('0' :: '0' :: Text.hexDigit (n / 16) :: Text.hexDigit (n % 16) :: cs) =
      some (Char.ofNat n, cs) := by
  have hzero : Text.hexValue? '0' = some 0 := rfl
  have hhigh := Text.hexValue?_hexDigit (n / 16) (by omega)
  have hlow := Text.hexValue?_hexDigit (n % 16) (by omega)
  have hvalue : ((0 * 16 + 0) * 16 + n / 16) * 16 + n % 16 = n := by omega
  have hread : readHex4 ('0' :: '0' :: Text.hexDigit (n / 16) :: Text.hexDigit (n % 16) :: cs) =
      some (n, cs) := by
    simp only [readHex4, hzero, hhigh, hlow, Option.bind_eq_bind, Option.bind_some, hvalue,
      Option.pure_def]
  have hfirst : ¬ (0xD800 ≤ n ∧ n < 0xDC00) := by omega
  have hsecond : ¬ (0xDC00 ≤ n ∧ n < 0xE000) := by omega
  simp only [readUnicode, hread, Option.bind_eq_bind, Option.bind_some, if_neg hfirst, guard,
    if_pos hsecond, Option.pure_def]

theorem readChars_escapeChar (c : Char) (fuel : Nat) (cs : List Char) :
    readChars (fuel + 1) (escapeChar c ++ cs) =
      (readChars fuel cs).map fun p => (c :: p.1, p.2) := by
  have hescape {e : List Char} (he : readEscape (e ++ cs) = some (c, cs)) :
      readChars (fuel + 1) ('\\' :: e ++ cs) =
        (readChars fuel cs).map fun p => (c :: p.1, p.2) := by
    have hstep : readChars (fuel + 1) ('\\' :: e ++ cs) = (readEscape (e ++ cs)).bind fun p =>
        (readChars fuel p.2).bind fun q => some (p.1 :: q.1, q.2) := rfl
    rw [hstep, he, Option.bind_some, Option.map_eq_bind]
    rfl
  fun_cases escapeChar c with
  | case1 h => exact hescape (by rw [beq_iff_eq.mp h]; rfl)
  | case2 _ h => exact hescape (by rw [beq_iff_eq.mp h]; rfl)
  | case3 _ _ h => exact hescape (by rw [beq_iff_eq.mp h]; rfl)
  | case4 _ _ _ h => exact hescape (by rw [beq_iff_eq.mp h]; rfl)
  | case5 _ _ _ _ h => exact hescape (by rw [beq_iff_eq.mp h]; rfl)
  | case6 _ _ _ _ _ h => exact hescape (by rw [beq_iff_eq.mp h]; rfl)
  | case7 _ _ _ _ _ _ h => exact hescape (by rw [beq_iff_eq.mp h]; rfl)
  | case8 _ _ _ _ _ _ _ h =>
      refine hescape ?_
      have hread := readUnicode_control c.toNat h cs
      rwa [Char.ofNat_toNat] at hread
  | case9 hquote hback _ _ _ _ _ hcontrol =>
      rw [List.singleton_append, readChars, if_neg hquote, if_neg hback, if_neg hcontrol,
        Option.map_eq_bind]
      rfl

theorem readChars_escaped (text rest : List Char) {fuel : Nat} (h : text.length < fuel) :
    readChars fuel (text.flatMap escapeChar ++ '"' :: rest) = some (text, rest) := by
  induction text generalizing fuel with
  | nil =>
      obtain ⟨fuel, rfl⟩ := Nat.exists_eq_succ_of_ne_zero (Nat.ne_of_gt h)
      rfl
  | cons c text ih =>
      obtain ⟨fuel, rfl⟩ := Nat.exists_eq_succ_of_ne_zero (Nat.ne_of_gt (Nat.zero_lt_of_lt h))
      rw [List.flatMap_cons, List.append_assoc, readChars_escapeChar,
        ih (Nat.lt_of_succ_lt_succ h), Option.map_some]

theorem escapeChar_ne_nil (c : Char) : escapeChar c ≠ [] := by
  fun_cases escapeChar c <;> exact List.cons_ne_nil _ _

theorem readString_escaped (s : String) (rest : List Char) :
    readString (s.toList.flatMap escapeChar ++ '"' :: rest) = some (s, rest) := by
  have hfuel := length_le_flatMap escapeChar_ne_nil s.toList
  rw [readString, readChars_escaped _ _ (by rw [List.length_append]; omega)]
  exact congrArg some (Prod.ext String.ofList_toList rfl)

/-! ## Items between brackets -/

theorem skipBlanks_append {blanks : List Char} (h : ∀ c ∈ blanks, isBlank c = true)
    (cs : List Char) : skipBlanks (blanks ++ cs) = skipBlanks cs :=
  List.dropWhile_append_of_pos h

theorem skipBlanks_cons {c : Char} (h : isBlank c = false) (cs : List Char) :
    skipBlanks (c :: cs) = c :: cs :=
  List.dropWhile_cons_of_neg (Bool.not_eq_true _ ▸ h)

/-- No blank goes on with a number. -/
theorem stops_append {blanks cs : List Char} (h : ∀ c ∈ blanks, isBlank c = true)
    (hcs : Stops cs) : Stops (blanks ++ cs) := by
  cases blanks with
  | nil => exact hcs
  | cons c blanks =>
      intro x hx
      obtain rfl := Option.some.inj hx
      have hblank := h c List.mem_cons_self
      simp only [isBlank, Bool.or_eq_true, beq_iff_eq] at hblank
      rcases hblank with ((rfl | rfl) | rfl) | rfl <;> rfl

theorem Style.isBlank_lead (style : Style) (level : Nat) :
    ∀ c ∈ (style.lead level).toList, isBlank c = true := by
  cases style with
  | compact => exact fun c hc => nomatch hc
  | pretty =>
      intro c hc
      rw [lead, String.toList_append] at hc
      rcases List.mem_append.mp hc with hc | hc
      · obtain rfl := List.mem_singleton.mp hc
        rfl
      · rw [indent, String.toList_ofList] at hc
        obtain rfl := List.eq_of_mem_replicate hc
        rfl

/-- What the text of a value starts with: no blank and no closing
bracket. -/
def Opens (text : List Char) : Prop :=
  ∃ c cs, text = c :: cs ∧ isBlank c = false ∧ c ≠ ']' ∧ c ≠ '\x7d'

theorem Opens.skipBlanks {text : List Char} (h : Opens text) (rest : List Char) :
    skipBlanks (text ++ rest) = text ++ rest := by
  obtain ⟨c, cs, rfl, hc, -⟩ := h
  exact skipBlanks_cons hc (cs ++ rest)

/-- The reader reads the text as `x` and leaves what follows. -/
structure ReadAs {α : Type} (read : List Char → Option (α × List Char)) (text : List Char)
    (x : α) : Prop where
  opens : Opens text
  reads : ∀ rest, Stops rest → read (text ++ rest) = some (x, rest)

section Items

variable {α β : Type} {item : List Char → Option (α × List Char)} {close : Char}
variable {text : β → List Char} {value : β → α} {lead lead' : List Char}

theorem readItems_joined (hclose : close = ']' ∨ close = '\x7d')
    (hlead : ∀ c ∈ lead, isBlank c = true) (hlead' : ∀ c ∈ lead', isBlank c = true)
    {b : β} {bs : List β} (hitems : ∀ x ∈ b :: bs, ReadAs item (text x) (value x))
    {fuel : Nat} (hfuel : bs.length < fuel) (rest : List Char) :
    readItems item close fuel (text b ++ (bs.flatMap (fun x => ',' :: (lead ++ text x))
      ++ (lead' ++ close :: rest))) = some (value b :: bs.map value, rest) := by
  have hstop : Stops (lead' ++ close :: rest) := by
    refine stops_append hlead' fun c hc => ?_
    obtain rfl := Option.some.inj hc
    rcases hclose with rfl | rfl <;> rfl
  have hblank : isBlank close = false := by rcases hclose with rfl | rfl <;> rfl
  have hcomma : (',' == close) = false := by rcases hclose with rfl | rfl <;> rfl
  induction bs generalizing b fuel with
  | nil =>
      obtain ⟨fuel, rfl⟩ := Nat.exists_eq_succ_of_ne_zero (Nat.ne_of_gt hfuel)
      have hfirst := (hitems b List.mem_cons_self).reads _ hstop
      rw [List.flatMap_nil, List.nil_append, readItems, hfirst]
      simp only [Option.bind_eq_bind, Option.bind_some, skipBlanks_append hlead',
        skipBlanks_cons hblank, beq_self_eq_true, if_true, List.map_nil, Option.pure_def]
  | cons b' bs ih =>
      obtain ⟨fuel, rfl⟩ := Nat.exists_eq_succ_of_ne_zero (Nat.ne_of_gt (Nat.zero_lt_of_lt hfuel))
      have hmore := ih (fun x hx => hitems x (List.mem_cons_of_mem _ hx))
        (Nat.lt_of_succ_lt_succ hfuel)
      have hopens := (hitems b' (by simp)).opens
      have hcommas : Stops (',' :: (lead ++ text b' ++
          (bs.flatMap (fun x => ',' :: (lead ++ text x)) ++ (lead' ++ close :: rest)))) := by
        intro c hc
        obtain rfl := Option.some.inj hc
        rfl
      have hfirst := (hitems b List.mem_cons_self).reads _ hcommas
      rw [List.flatMap_cons, List.append_assoc, List.cons_append, readItems, hfirst]
      simp only [Option.bind_eq_bind, Option.bind_some, skipBlanks_cons (c := ',') rfl, hcomma,
        Bool.false_eq_true, if_false, beq_self_eq_true, if_true, List.append_assoc,
        skipBlanks_append hlead, hopens.skipBlanks, hmore, List.map_cons, Option.pure_def]

/-- What stands between brackets is read as the items that were
written there. -/
theorem readContainer_enclose (hclose : close = ']' ∨ close = '\x7d') (style : Style) (level : Nat)
    {opening closing : String} {first : Char} (hopening : opening.toList = [first])
    (hclosing : closing.toList = [close]) {write : β → String} {bs : List β}
    (hitems : ∀ x ∈ bs, ReadAs item (write x).toList (value x)) :
    ∃ inner, (enclose style level opening closing (bs.map write)).toList = first :: inner
      ∧ ∀ rest, readContainer item close (inner ++ rest) = some (bs.map value, rest) := by
  have hblank : isBlank close = false := by rcases hclose with rfl | rfl <;> rfl
  cases bs with
  | nil =>
      refine ⟨[close], ?_, fun rest => ?_⟩
      · rw [List.map_nil, enclose, String.toList_append, hopening, hclosing]
        rfl
      · rw [List.singleton_append, readContainer, skipBlanks_cons hblank]
        simp only [beq_self_eq_true, if_true, List.map_nil]
  | cons b bs =>
      let lead := (style.lead (level + 1)).toList
      let joined := bs.flatMap (fun x => ',' :: (lead ++ (write x).toList))
        ++ ((style.lead level).toList ++ [close])
      refine ⟨lead ++ ((write b).toList ++ joined), ?_, fun rest => ?_⟩
      · simp only [List.map_cons, enclose, String.toList_append, String.toList_join,
          List.flatMap_map, hopening, hclosing, List.append_assoc, List.map_map,
          Function.comp_apply, List.singleton_append]
        rfl
      · obtain ⟨c, cs, hcs, hc, hne, hne'⟩ := (hitems b List.mem_cons_self).opens
        have hstart : c ≠ close := by rcases hclose with rfl | rfl <;> assumption
        have hlead : ∀ c ∈ lead, isBlank c = true := style.isBlank_lead (level + 1)
        have hlength := length_le_flatMap
          (fun x => List.cons_ne_nil ',' (lead ++ (write x).toList)) bs
        have hfuel : bs.length < (cs ++ (joined ++ rest)).length + 1 := by
          simp only [joined, List.length_append]
          omega
        have hread := readItems_joined hclose hlead (style.isBlank_lead level) hitems hfuel rest
        have hinner : skipBlanks (lead ++ ((write b).toList ++ joined) ++ rest) =
            c :: (cs ++ (joined ++ rest)) := by
          rw [List.append_assoc, skipBlanks_append hlead, List.append_assoc, hcs, List.cons_append,
            skipBlanks_cons hc]
        have hjoined : (write b).toList ++ (bs.flatMap (fun x => ',' :: (lead ++ (write x).toList))
            ++ ((style.lead level).toList ++ close :: rest)) = c :: (cs ++ (joined ++ rest)) := by
          simp only [hcs, joined, List.append_assoc, List.cons_append, List.nil_append]
        rw [hjoined] at hread
        simp only [readContainer, hinner, beq_false_of_ne hstart, Bool.false_eq_true, if_false,
          hread, List.map_cons]

end Items

/-! ## Values -/

mutual

/-- The value with the members of every object in the order of their
names. -/
def ordered : Json → Json
  | .array items => .array (orderedItems items)
  | .object members => ofMembers (orderedMembers members)
  | other => other

def orderedItems : List Json → List Json
  | [] => []
  | j :: rest => j.ordered :: orderedItems rest

def orderedMembers : List (String × Json) → List (String × Json)
  | [] => []
  | (name, j) :: rest => (name, j.ordered) :: orderedMembers rest

end

theorem orderedItems_eq_map (items : List Json) : orderedItems items = items.map ordered := by
  induction items with
  | nil => rfl
  | cons j rest ih => rw [orderedItems, ih, List.map_cons]

theorem orderedMembers_eq_map (members : List (String × Json)) :
    orderedMembers members = members.map fun m => (m.1, m.2.ordered) := by
  induction members with
  | nil => rfl
  | cons m rest ih => rw [orderedMembers, ih, List.map_cons]

theorem writeItems_eq_map (style : Style) (level : Nat) (items : List Json) :
    writeItems style level items = items.map (write style level) := by
  induction items with
  | nil => rfl
  | cons j rest ih => rw [writeItems, ih, List.map_cons]

theorem writeMembers_eq_map (style : Style) (level : Nat) (members : List (String × Json)) :
    writeMembers style level members = members.map fun m =>
      quote m.1 ++ style.colon ++ write style level m.2 := by
  induction members with
  | nil => rfl
  | cons m rest ih => rw [writeMembers, ih, List.map_cons]

/-- The value nests at most `depth` deep, and its numbers read back. -/
def Fits : Nat → Json → Prop
  | _, .number n => n.ReadsBack
  | 0, .array _ | 0, .object _ => False
  | depth + 1, .array items => ∀ j ∈ items, Fits depth j
  | depth + 1, .object members => ∀ m ∈ members, Fits depth m.2
  | _, _ => True

theorem toList_quote_append (s : String) (rest : List Char) :
    (quote s).toList ++ rest = '"' :: (s.toList.flatMap escapeChar ++ '"' :: rest) := by
  simp only [quote, String.toList_append, String.toList_ofList, List.append_assoc]
  rfl

theorem opens_quote (s : String) (rest : List Char) : Opens ((quote s).toList ++ rest) :=
  ⟨'"', _, toList_quote_append s rest, rfl, by decide, by decide⟩

theorem readAs_string (depth : Nat) (s : String) :
    ReadAs (readValue depth) (quote s).toList (.string s) := by
  refine ⟨by simpa only [List.append_nil] using opens_quote s [], fun rest _ => ?_⟩
  rw [toList_quote_append, readValue, readString_escaped]
  rfl

theorem readAs_number {n : Number} (h : n.ReadsBack) (depth : Nat) :
    ReadAs (readValue depth) n.text.toList (.number n) := by
  refine ⟨?_, fun rest hrest => h.readValue hrest depth⟩
  rcases readValue_number h with ⟨tail, htext, -⟩ | ⟨c, tail, htext, hc, -⟩
  · exact ⟨'-', tail, htext, rfl, by decide, by decide⟩
  · refine ⟨c, tail, htext, ?_, ?_, ?_⟩
    · cases hblank : isBlank c with
      | false => rfl
      | true =>
          simp only [isBlank, Bool.or_eq_true, beq_iff_eq] at hblank
          rcases hblank with ((rfl | rfl) | rfl) | rfl <;> cases hc
    · rintro rfl
      cases hc
    · rintro rfl
      cases hc

theorem readAs_member {read : List Char → Option (Json × List Char)} (style : Style)
    {text : String} {j : Json} (h : ReadAs read text.toList j) (name : String) :
    ReadAs (readMember read) (quote name ++ style.colon ++ text).toList (name, j) := by
  have hcolon : ∃ blanks, style.colon.toList = ':' :: blanks ∧ ∀ c ∈ blanks, isBlank c = true := by
    cases style with
    | compact => exact ⟨[], rfl, fun _ hc => nomatch hc⟩
    | pretty => exact ⟨[' '], rfl, fun c hc => List.mem_singleton.mp hc ▸ rfl⟩
  obtain ⟨blanks, hcolon, hblanks⟩ := hcolon
  rw [String.toList_append, String.toList_append, List.append_assoc]
  refine ⟨opens_quote name _, fun rest hrest => ?_⟩
  rw [List.append_assoc, toList_quote_append, hcolon]
  have hvalue := h.reads rest hrest
  simp only [readMember, readString_escaped, Option.bind_eq_bind, Option.bind_some,
    List.cons_append, List.append_assoc, skipBlanks_cons (c := ':') rfl, skipBlanks_append hblanks,
    h.opens.skipBlanks, hvalue, Option.pure_def]

theorem readAs_word {α : Type} {read : List Char → Option (α × List Char)} {x : α} {text : String}
    {c : Char} {cs : List Char} (htext : text.toList = c :: cs)
    (hc : isBlank c = false ∧ c ≠ ']' ∧ c ≠ '\x7d')
    (h : ∀ rest, read (c :: (cs ++ rest)) = some (x, rest)) : ReadAs read text.toList x := by
  rw [htext]
  exact ⟨⟨c, cs, rfl, hc⟩, fun rest _ => h rest⟩

theorem readAs_write (style : Style) : ∀ {depth : Nat} {j : Json}, Fits depth j → ∀ level,
    ReadAs (readValue depth) (write style level j).toList j.ordered
  | depth, .null, _, level => by
      rw [write]
      have hword : "null".toList = ['n', 'u', 'l', 'l'] := rfl
      refine readAs_word hword (by decide) fun rest => ?_
      rw [readValue]
      rfl
  | depth, .bool true, _, level => by
      rw [write]
      have hword : "true".toList = ['t', 'r', 'u', 'e'] := rfl
      refine readAs_word hword (by decide) fun rest => ?_
      rw [readValue]
      rfl
  | depth, .bool false, _, level => by
      rw [write]
      have hword : "false".toList = ['f', 'a', 'l', 's', 'e'] := rfl
      refine readAs_word hword (by decide) fun rest => ?_
      rw [readValue]
      rfl
  | depth, .number n, h, _ => by
      rw [Fits] at h
      exact readAs_number h depth
  | depth, .string s, _, _ => readAs_string depth s
  | depth + 1, .array items, h, level => by
      rw [Fits] at h
      rw [write, writeItems_eq_map, ordered, orderedItems_eq_map]
      obtain ⟨inner, htext, hread⟩ := readContainer_enclose (.inl rfl) style level
        (show "[".toList = ['['] from rfl) (show "]".toList = [']'] from rfl)
        fun j hj => readAs_write style (h j hj) (level + 1)
      rw [htext]
      refine ⟨⟨'[', inner, rfl, rfl, by decide, by decide⟩, fun rest _ => ?_⟩
      simp only [List.cons_append, readValue, hread, Option.bind_eq_bind, Option.bind_some,
        Option.pure_def]
  | depth + 1, .object members, h, level => by
      rw [Fits] at h
      rw [write, writeMembers_eq_map, ordered, orderedMembers_eq_map]
      obtain ⟨inner, htext, hread⟩ := readContainer_enclose (.inr rfl) style level
        (show "\x7b".toList = ['\x7b'] from rfl) (show "\x7d".toList = ['\x7d'] from rfl)
        fun m hm => readAs_member style (readAs_write style (h m hm) (level + 1)) m.1
      rw [htext]
      refine ⟨⟨'\x7b', inner, rfl, rfl, by decide, by decide⟩, fun rest _ => ?_⟩
      simp only [List.cons_append, readValue, hread, Option.bind_eq_bind, Option.bind_some,
        Option.pure_def]
  | 0, .array _, h, _ => by rw [Fits] at h; exact h.elim
  | 0, .object _, h, _ => by rw [Fits] at h; exact h.elim

/-- The text of a value, in either style, reads back as the value with
its objects in order. -/
theorem parse_write (style : Style) {j : Json} (h : Fits maxNesting j) :
    parse (write style 0 j) = some j.ordered := by
  have hread := readAs_write style h 0
  have hopens := hread.opens.skipBlanks []
  have hvalue := hread.reads [] stops_nil
  rw [List.append_nil] at hopens hvalue
  simp only [parse, hopens, hvalue, Option.bind_eq_bind, Option.bind_some]
  rfl

end ScriptScout.Json
