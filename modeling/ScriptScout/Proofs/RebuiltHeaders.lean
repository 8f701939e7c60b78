import ScriptScout.Proofs.Rebuilt
import ScriptScout.Proofs.Text.Parts

/-!
# Rebuilt documents keep their headers

A rebuilt text says nothing of the selections and all of the headers:
two documents are rebuilt as one text only if their headers are the same
(`rebuilt_eq_iff`).

The text can be read in one way only because each part of it ends where
a character stands that the part cannot hold. A definition ends at the
first closing brace, a variable at the first comma, a name at the first
character of no name (`Text.append_inj_of_run`). Types are the exception:
brackets and bangs nest, and a type is read from its last character,
which tells what it wraps (`TypeExpr.eq_of_text`).
-/

namespace ScriptScout.Graphql

open ScriptScout.Text (StopsRun stopsRun_nil stopsRun_cons append_inj_of_run Follows flatMap_inj)

/-! ## Names and types -/

theorem Name.eq_of_text {n m : Name} (h : n.text.toList = m.text.toList) : n = m := by
  obtain ⟨text, hvalid⟩ := n
  obtain ⟨text', hvalid'⟩ := m
  obtain rfl : text = text' := String.toList_inj.mp h
  rfl

theorem Name.isNameChar_of_mem (n : Name) : ∀ c ∈ n.text.toList, isNameChar c = true := by
  obtain ⟨d, ds, heq, hd, hds⟩ := n.exists_cons
  intro c hc
  rw [heq] at hc
  rcases List.mem_cons.mp hc with rfl | hmem
  · exact hd
  · exact hds c hmem

theorem Name.not_mem (n : Name) {c : Char} (hc : isNameChar c = false) : c ∉ n.text.toList := by
  intro hmem
  rw [n.isNameChar_of_mem c hmem] at hc
  cases hc

/-- A name ends where no character of a name follows. -/
theorem Name.text_append_inj {n m : Name} {r s : List Char} (hr : StopsRun isNameChar r)
    (hs : StopsRun isNameChar s) (h : n.text.toList ++ r = m.text.toList ++ s) :
    n = m ∧ r = s := by
  obtain ⟨hname, hrest⟩ := append_inj_of_run n.isNameChar_of_mem m.isNameChar_of_mem hr hs h
  exact ⟨Name.eq_of_text hname, hrest⟩

namespace TypeExpr

theorem toList_text_list (t : TypeExpr) :
    (list t).text.toList = '[' :: (t.text.toList ++ [']']) := by
  simp only [text, String.toList_append]
  rfl

theorem toList_text_nonNull (t : TypeExpr) : (nonNull t).text.toList = t.text.toList ++ ['!'] := by
  simp only [text, String.toList_append]
  rfl

theorem text_named_ne_list (n : Name) (t : TypeExpr) :
    (named n).text.toList ≠ (list t).text.toList := by
  intro h
  have hmem : '[' ∈ n.text.toList := by
    rw [show n.text.toList = _ from h, toList_text_list]
    exact List.mem_cons_self ..
  exact n.not_mem (by decide) hmem

theorem text_named_ne_nonNull (n : Name) (t : TypeExpr) :
    (named n).text.toList ≠ (nonNull t).text.toList := by
  intro h
  have hmem : '!' ∈ n.text.toList := by
    rw [show n.text.toList = _ from h, toList_text_nonNull]
    exact List.mem_append_right _ (List.mem_singleton.mpr rfl)
  exact n.not_mem (by decide) hmem

theorem text_list_ne_nonNull (t u : TypeExpr) :
    (list t).text.toList ≠ (nonNull u).text.toList := by
  intro h
  have hlast := congrArg List.getLast? h
  rw [toList_text_list, toList_text_nonNull, ← List.cons_append, List.getLast?_concat,
    List.getLast?_concat] at hlast
  exact absurd (Option.some.inj hlast) (by decide)

/-- The last character of a type tells what it wraps: nothing, or what
is left without it. -/
theorem eq_of_text {t u : TypeExpr} (h : t.text.toList = u.text.toList) : t = u := by
  induction t generalizing u with
  | named n =>
      cases u with
      | named m => rw [Name.eq_of_text h]
      | list u => exact absurd h (text_named_ne_list n u)
      | nonNull u => exact absurd h (text_named_ne_nonNull n u)
  | list t ih =>
      cases u with
      | named m => exact absurd h.symm (text_named_ne_list m t)
      | list u =>
          rw [toList_text_list, toList_text_list] at h
          rw [ih (List.append_cancel_right (List.cons.inj h).2)]
      | nonNull u => exact absurd h (text_list_ne_nonNull t u)
  | nonNull t ih =>
      cases u with
      | named m => exact absurd h.symm (text_named_ne_nonNull m t)
      | list u => exact absurd h.symm (text_list_ne_nonNull u t)
      | nonNull u =>
          rw [toList_text_nonNull, toList_text_nonNull] at h
          rw [ih (List.append_cancel_right h)]

theorem comma_not_mem (t : TypeExpr) : ',' ∉ t.text.toList := by
  induction t with
  | named n => exact n.not_mem (by decide)
  | list t ih =>
      rw [toList_text_list]
      simp [ih]
  | nonNull t ih =>
      rw [toList_text_nonNull]
      simp [ih]

end TypeExpr

/-! ## Variables -/

namespace Variable

theorem toList_text (v : Variable) :
    v.text.toList = '$' :: (v.name.text.toList ++ ':' :: ' ' :: v.type.text.toList) := by
  simp only [text, String.toList_append, List.append_assoc]
  rfl

theorem eq_of_text {v w : Variable} (h : v.text.toList = w.text.toList) : v = w := by
  rw [toList_text, toList_text] at h
  have hcolon (rest : List Char) : StopsRun isNameChar (':' :: rest) := stopsRun_cons rfl rest
  obtain ⟨hname, hrest⟩ := Name.text_append_inj (hcolon _) (hcolon _) (List.cons.inj h).2
  have htype := TypeExpr.eq_of_text (List.cons.inj (List.cons.inj hrest).2).2
  obtain ⟨name, type⟩ := v
  obtain ⟨name', type'⟩ := w
  rw [Variable.mk.injEq]
  exact ⟨hname, htype⟩

theorem ne_comma_of_mem (v : Variable) : ∀ c ∈ v.text.toList, (c != ',') = true := by
  have hcomma : ',' ∉ v.text.toList := by
    rw [toList_text]
    simp [v.name.not_mem (show isNameChar ',' = false by decide), v.type.comma_not_mem]
  intro c hc
  rw [bne_iff_ne]
  rintro rfl
  exact hcomma hc

/-- A variable ends at the end of the list or at the comma behind it. -/
theorem text_append_inj {v w : Variable} {r s : List Char} (hr : Follows ", ".toList r)
    (hs : Follows ", ".toList s) (h : v.text.toList ++ r = w.text.toList ++ s) :
    v = w ∧ r = s := by
  have hne : ", ".toList ≠ [] := by decide
  have hstop : StopsRun (· != ',') ", ".toList := stopsRun_cons (by decide) _
  obtain ⟨htext, hrest⟩ := append_inj_of_run v.ne_comma_of_mem w.ne_comma_of_mem
    (hr.stopsRun hne hstop) (hs.stopsRun hne hstop) h
  exact ⟨eq_of_text htext, hrest⟩

end Variable

theorem toList_variablesText (v : Variable) (vs : List Variable) :
    (variablesText (v :: vs)).toList =
      '(' :: (v.text.toList ++ (vs.flatMap fun w => ", ".toList ++ w.text.toList) ++ [')']) := by
  have hlist := toList_variablesText_cons v vs []
  rwa [List.append_nil, toList_intercalate_cons] at hlist

theorem eq_of_variablesText {vs ws : List Variable}
    (h : (variablesText vs).toList = (variablesText ws).toList) : vs = ws := by
  cases vs with
  | nil =>
      cases ws with
      | nil => rfl
      | cons w ws =>
          rw [toList_variablesText] at h
          cases h
  | cons v vs =>
      cases ws with
      | nil =>
          rw [toList_variablesText] at h
          cases h
      | cons w ws =>
          rw [toList_variablesText, toList_variablesText] at h
          have hjoined := List.append_cancel_right (List.cons.inj h).2
          have hlists : ((v :: vs).flatMap fun x => ", ".toList ++ x.text.toList) =
              (w :: ws).flatMap fun x => ", ".toList ++ x.text.toList := by
            rw [List.flatMap_cons, List.flatMap_cons, List.append_assoc, List.append_assoc, hjoined]
          exact flatMap_inj (by decide) Variable.text_append_inj hlists

/-! ## Definitions -/

theorem OperationKind.isNameChar_of_mem (kind : OperationKind) :
    ∀ c ∈ kind.keyword.toList, isNameChar c = true := by
  cases kind <;> exact List.all_eq_true.mp (by decide)

theorem OperationKind.eq_of_keyword {kind other : OperationKind}
    (h : kind.keyword.toList = other.keyword.toList) : kind = other := by
  cases kind <;> cases other <;> revert h <;> decide

theorem stopsRun_variablesText (vs : List Variable) :
    StopsRun isNameChar (variablesText vs).toList := by
  cases vs with
  | nil => exact stopsRun_nil
  | cons v vs =>
      rw [toList_variablesText]
      exact stopsRun_cons rfl _

/-- The name of an operation, if it has one, and its variables. -/
def signatureText (name : Option Name) (declared : List Variable) : List Char :=
  (name.elim "" (" " ++ ·.text)).toList ++ (variablesText declared).toList

theorem signatureText_none (declared : List Variable) :
    signatureText none declared = (variablesText declared).toList := rfl

theorem signatureText_some (name : Name) (declared : List Variable) :
    signatureText (some name) declared =
      ' ' :: (name.text.toList ++ (variablesText declared).toList) := by
  rw [signatureText, Option.elim_some, String.toList_append, List.append_assoc]
  rfl

theorem stopsRun_signatureText (name : Option Name) (declared : List Variable) :
    StopsRun isNameChar (signatureText name declared) := by
  cases name with
  | none => exact stopsRun_variablesText declared
  | some name =>
      rw [signatureText_some]
      exact stopsRun_cons rfl _

/-- Variables start with a parenthesis and a name with a blank. -/
theorem variablesText_ne_blank (vs : List Variable) (rest : List Char) :
    (variablesText vs).toList ≠ ' ' :: rest := by
  intro h
  cases vs with
  | nil => cases h
  | cons v vs =>
      rw [toList_variablesText] at h
      exact absurd (List.cons.inj h).1 (by decide)

theorem eq_of_signatureText {n m : Option Name} {vs ws : List Variable}
    (h : signatureText n vs = signatureText m ws) : n = m ∧ vs = ws := by
  cases n with
  | none =>
      cases m with
      | none => exact ⟨rfl, eq_of_variablesText h⟩
      | some m =>
          rw [signatureText_none, signatureText_some] at h
          exact absurd h (variablesText_ne_blank vs _)
  | some n =>
      cases m with
      | none =>
          rw [signatureText_none, signatureText_some] at h
          exact absurd h.symm (variablesText_ne_blank ws _)
      | some m =>
          rw [signatureText_some, signatureText_some] at h
          obtain ⟨rfl, hvariables⟩ := Name.text_append_inj (stopsRun_variablesText vs)
            (stopsRun_variablesText ws) (List.cons.inj h).2
          exact ⟨rfl, eq_of_variablesText hvariables⟩

namespace Definition

theorem toList_header_operation (kind : OperationKind) (name : Option Name)
    (declared : List Variable) : (operation kind name declared).header.toList =
      kind.keyword.toList ++ signatureText name declared := by
  simp only [header, signatureText, String.toList_append, List.append_assoc]

theorem toList_header_fragment (name type : Name) : (fragment name type).header.toList =
    "fragment".toList ++ ' ' :: (name.text.toList ++ ' ' :: 'o' :: 'n' :: ' ' ::
      type.text.toList) := by
  simp only [header, String.toList_append, List.append_assoc]
  rfl

/-- No operation has the keyword of a fragment. -/
theorem header_operation_ne_fragment (kind : OperationKind) (name : Option Name)
    (declared : List Variable) (n type : Name) :
    (operation kind name declared).header.toList ≠ (fragment n type).header.toList := by
  intro h
  rw [toList_header_operation, toList_header_fragment] at h
  have hfragment : ∀ c ∈ "fragment".toList, isNameChar c = true :=
    List.all_eq_true.mp (by decide)
  obtain ⟨hkeyword, -⟩ := append_inj_of_run kind.isNameChar_of_mem hfragment
    (stopsRun_signatureText name declared) (stopsRun_cons rfl _) h
  cases kind <;> exact absurd hkeyword (by decide)

theorem eq_of_header {d e : Definition} (h : d.header.toList = e.header.toList) : d = e := by
  cases d with
  | operation kind name declared =>
      cases e with
      | operation kind' name' declared' =>
          rw [toList_header_operation, toList_header_operation] at h
          obtain ⟨hkeyword, hsignature⟩ := append_inj_of_run kind.isNameChar_of_mem
            kind'.isNameChar_of_mem (stopsRun_signatureText name declared)
            (stopsRun_signatureText name' declared') h
          obtain ⟨rfl, rfl⟩ := eq_of_signatureText hsignature
          rw [OperationKind.eq_of_keyword hkeyword]
      | fragment name' type' =>
          exact absurd h (header_operation_ne_fragment kind name declared name' type')
  | fragment name type =>
      cases e with
      | operation kind' name' declared' =>
          exact absurd h.symm (header_operation_ne_fragment kind' name' declared' name type)
      | fragment name' type' =>
          rw [toList_header_fragment, toList_header_fragment] at h
          have hblank (rest : List Char) : StopsRun isNameChar (' ' :: rest) :=
            stopsRun_cons rfl rest
          obtain ⟨rfl, hon⟩ := Name.text_append_inj (hblank _) (hblank _)
            (List.cons.inj (List.append_cancel_left h)).2
          simp only [List.cons.injEq, true_and] at hon
          rw [Name.eq_of_text hon]

/-- A definition up to the brace that closes it. -/
theorem toList_text_brace (d : Definition) (rest : List Char) :
    d.text.toList ++ rest =
      (d.header.toList ++ ' ' :: '\x7b' :: placeholderText) ++ '\x7d' :: rest := by
  rw [d.toList_text, toList_rebuiltBody]
  simp only [List.append_assoc, List.cons_append, List.nil_append]

theorem ne_brace_of_mem (d : Definition) :
    ∀ c ∈ d.header.toList ++ ' ' :: '\x7b' :: placeholderText, (c != '\x7d') = true := by
  intro c hc
  rcases List.mem_append.mp hc with hheader | hbody
  · have hbrace := List.all_eq_true.mp d.header_braceless c hheader
    simp only [isBrace, Bool.not_eq_true', Bool.or_eq_false_iff] at hbrace
    rw [bne, hbrace.2, Bool.not_false]
  · exact List.all_eq_true.mp (show (' ' :: '\x7b' :: placeholderText).all (· != '\x7d') = true by
      decide) c hbody

/-- A definition ends at its closing brace, whatever follows. -/
theorem text_append_inj {d e : Definition} {r s : List Char}
    (h : d.text.toList ++ r = e.text.toList ++ s) : d = e ∧ r = s := by
  rw [toList_text_brace, toList_text_brace] at h
  have hbrace (rest : List Char) : StopsRun (· != '\x7d') ('\x7d' :: rest) :=
    stopsRun_cons (by decide) rest
  obtain ⟨hheader, hrest⟩ := append_inj_of_run d.ne_brace_of_mem e.ne_brace_of_mem (hbrace _)
    (hbrace _) h
  exact ⟨eq_of_header (List.append_cancel_right hheader), (List.cons.inj hrest).2⟩

end Definition

/-! ## Documents -/

theorem eq_of_documentText {d e : Definition} {ds es : List Definition}
    (h : documentText (d :: ds) = documentText (e :: es)) : d :: ds = e :: es := by
  have hlist : d.text.toList ++ tailText ds = e.text.toList ++ tailText es := by
    rw [← toList_documentText, h, toList_documentText]
  obtain ⟨rfl, htail⟩ := Definition.text_append_inj hlist
  have hrest : ds = es := flatMap_inj (by decide) (fun _ _ => Definition.text_append_inj) htail
  rw [hrest]

/-- A document without definitions is not rebuilt. -/
theorem rebuild?_of_isDocumentOf_nil {j : Json} (h : IsDocumentOf j []) : rebuild? j = none := by
  obtain ⟨hkind, js, hjs, hall⟩ := h
  cases hall
  simp only [rebuild?, hkind.kindName?_eq, hjs, Option.bind_eq_bind, Option.bind_some,
    Json.array?, beq_self_eq_true, guard_true, List.filterMap_nil]
  rfl

/-- **A rebuilt document keeps its headers.** Two compiled documents are
rebuilt as the same text exactly if they have the same definitions in the
same order: the same operations and fragments, with the same names,
variables and types. Nothing is asked of the selections, which may
differ. -/
theorem rebuilt_eq_iff {j k : Json} {ds es : List Definition} (hj : IsDocumentOf j ds)
    (hk : IsDocumentOf k es) : rebuild? j = rebuild? k ↔ ds = es := by
  cases ds with
  | nil =>
      cases es with
      | nil => exact iff_of_true (by rw [rebuild?_of_isDocumentOf_nil hj,
          rebuild?_of_isDocumentOf_nil hk]) rfl
      | cons e es =>
          rw [rebuild?_of_isDocumentOf_nil hj, rebuild?_of_isDocumentOf hk]
          exact iff_of_false (fun h => nomatch h) (fun h => nomatch h)
  | cons d ds =>
      cases es with
      | nil =>
          rw [rebuild?_of_isDocumentOf hj, rebuild?_of_isDocumentOf_nil hk]
          exact iff_of_false (fun h => nomatch h) (fun h => nomatch h)
      | cons e es =>
          rw [rebuild?_of_isDocumentOf hj, rebuild?_of_isDocumentOf hk, Option.some.injEq]
          constructor
          · exact eq_of_documentText
          · intro h
            rw [h]

/-- The compiled form of a type that wraps another one. -/
def wrappedTypeJson (kind : String) (type : Json) : Json :=
  .object [("kind", .string kind), ("type", type)]

/-- The compiled form of a query with one variable. -/
def lookupJson (type selection : Json) : Json :=
  let ids : Json := .object [("type", type),
    ("variable", .object [("kind", .string "Variable"), ("name", nameJson "ids")])]
  let lookup : Json := .object [("kind", .string "OperationDefinition"),
    ("operation", .string "query"), ("selectionSet", selection),
    ("variableDefinitions", .array [ids])]
  .object [("definitions", .array [lookup]), ("kind", .string "Document")]

/-- The header of a query with one variable. -/
def lookupHeader (type : TypeExpr) : Definition :=
  .operation .query none [⟨⟨"ids", rfl⟩, type⟩]

theorem isDocumentOf_lookupJson {type selection : Json} {t : TypeExpr} (htype : IsTypeOf type t)
    (hselection : selection.isNull = false) :
    IsDocumentOf (lookupJson type selection) [lookupHeader t] := by
  refine ⟨rfl, _, rfl, .cons ?_ .nil⟩
  refine .operation rfl rfl (fun _ h => nomatch h) (.listed rfl (.cons ?_ .nil))
    ⟨_, rfl, hselection⟩
  exact ⟨⟨_, rfl, _, rfl, rfl⟩, _, rfl, htype⟩

/-- `[ID!]` and `[ID]!` are told apart, and two selections are not. -/
theorem rebuilt_eq_iff_brackets :
    let id := namedTypeJson "ID"
    let inner := lookupJson (wrappedTypeJson "ListType" (wrappedTypeJson "NonNullType" id))
    let outer := lookupJson (wrappedTypeJson "NonNullType" (wrappedTypeJson "ListType" id))
    rebuild? (inner (.object [])) ≠ rebuild? (outer (.object []))
      ∧ rebuild? (inner (.object [])) = rebuild? (inner (.array [])) := by
  intro id inner outer
  have hid : IsTypeOf id (.named ⟨"ID", rfl⟩) := .named rfl ⟨_, rfl, rfl⟩
  have hinner (selection : Json) (h : selection.isNull = false) :
      IsDocumentOf (inner selection) [lookupHeader (.list (.nonNull (.named ⟨"ID", rfl⟩)))] :=
    isDocumentOf_lookupJson (.list rfl rfl (.nonNull rfl rfl hid)) h
  have houter (selection : Json) (h : selection.isNull = false) :
      IsDocumentOf (outer selection) [lookupHeader (.nonNull (.list (.named ⟨"ID", rfl⟩)))] :=
    isDocumentOf_lookupJson (.nonNull rfl rfl (.list rfl rfl hid)) h
  constructor
  · intro h
    have hsame := (rebuilt_eq_iff (hinner _ rfl) (houter _ rfl)).mp h
    exact absurd hsame (by decide)
  · exact (rebuilt_eq_iff (hinner _ rfl) (hinner _ rfl)).mpr rfl

end ScriptScout.Graphql
