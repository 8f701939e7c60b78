import Mathlib.Data.List.Forall2
import Mathlib.Data.Option.Basic
import ScriptScout.Graphql.Document

/-!
# Compiled documents and what they are rebuilt as

A compiled document is a tree of JSON objects. What `rebuild?` can tell
of it is a list of headers: an operation with its name and its
variables, or a fragment with its name and the type that it is on.
`Definition` is such a header, with names that are names by
construction, and `Definition.text` is how it is written.

`IsDocumentOf` says which JSON values are compiled forms of a list of
headers. It looks at members only and asks nothing of the selections
but that they are there. From a compiled form `rebuild?` gives back the
text of its headers (`rebuild?_of_isDocumentOf`).
-/

namespace ScriptScout.Graphql

/-! ## Headers -/

/-- Can the character stand in a name? -/
def isNameChar (c : Char) : Bool := c.isAlphanum || c == '_'

/-- Names consist of letters, digits and underscores and start with no
digit. -/
def isName : List Char → Bool
  | [] => false
  | c :: cs => (c.isAlpha || c == '_') && cs.all isNameChar

structure Name where
  text : String
  valid : isName text.toList = true
  deriving DecidableEq

/-- The type of a variable. -/
inductive TypeExpr where
  | named (name : Name)
  | list (inner : TypeExpr)
  | nonNull (inner : TypeExpr)
  deriving DecidableEq

structure Variable where
  name : Name
  type : TypeExpr
  deriving DecidableEq

inductive OperationKind where
  | query
  | mutation
  | subscription
  deriving Repr, DecidableEq

/-- The header of an operation or of a fragment. -/
inductive Definition where
  | operation (kind : OperationKind) (name : Option Name) (declared : List Variable)
  | fragment (name type : Name)
  deriving DecidableEq

/-! ## How headers are written -/

def TypeExpr.text : TypeExpr → String
  | named name => name.text
  | list inner => "[" ++ inner.text ++ "]"
  | nonNull inner => inner.text ++ "!"

def Variable.text (v : Variable) : String := "$" ++ v.name.text ++ ": " ++ v.type.text

def OperationKind.keyword : OperationKind → String
  | query => "query"
  | mutation => "mutation"
  | subscription => "subscription"

/-- The variables of an operation in parentheses, if it has any. -/
def variablesText (vs : List Variable) : String :=
  if vs.isEmpty then "" else "(" ++ String.intercalate ", " (vs.map Variable.text) ++ ")"

/-- What stands before the selection. -/
def Definition.header : Definition → String
  | operation kind name declared =>
      kind.keyword ++ name.elim "" (" " ++ ·.text) ++ variablesText declared
  | fragment name type => "fragment " ++ name.text ++ " on " ++ type.text

def Definition.text (d : Definition) : String := d.header ++ rebuiltBody

def documentText (ds : List Definition) : String :=
  String.intercalate "\n\n" (ds.map Definition.text)

/-! ## Compiled forms -/

/-- The value is an object of a kind. -/
def HasKind (j : Json) (kind : String) : Prop := j.get? "kind" = some (.string kind)

/-- The value carries a name. -/
def HasName (j : Json) (name : Name) : Prop :=
  ∃ n, j.get? "name" = some n ∧ n.get? "value" = some (.string name.text)

/-- The value has no member under a key, or one that is null. -/
def Lacks (j : Json) (key : String) : Prop := ∀ value, j.get? key = some value → value = .null

inductive IsTypeOf : Json → TypeExpr → Prop
  | named {j : Json} {name : Name} (hkind : HasKind j "NamedType") (hname : HasName j name) :
      IsTypeOf j (.named name)
  | list {j inner : Json} {t : TypeExpr} (hkind : HasKind j "ListType")
      (htype : j.get? "type" = some inner) (hinner : IsTypeOf inner t) : IsTypeOf j (.list t)
  | nonNull {j inner : Json} {t : TypeExpr} (hkind : HasKind j "NonNullType")
      (htype : j.get? "type" = some inner) (hinner : IsTypeOf inner t) : IsTypeOf j (.nonNull t)

structure IsVariableOf (j : Json) (v : Variable) : Prop where
  name : ∃ x, j.get? "variable" = some x ∧ HasName x v.name
  type : ∃ t, j.get? "type" = some t ∧ IsTypeOf t v.type

/-- The value declares variables; where there are none, the list may be
missing. -/
inductive DeclaresIn (j : Json) : List Variable → Prop
  | missing (hnone : Lacks j "variableDefinitions") : DeclaresIn j []
  | listed {js : List Json} {vs : List Variable}
      (hlist : j.get? "variableDefinitions" = some (.array js))
      (hall : List.Forall₂ IsVariableOf js vs) : DeclaresIn j vs

inductive IsDefinitionOf (j : Json) : Definition → Prop
  | operation {kind : OperationKind} {name : Option Name} {declared : List Variable}
      (hkind : HasKind j "OperationDefinition")
      (hoperation : j.get? "operation" = some (.string kind.keyword))
      (hname : name.elim (Lacks j "name") (HasName j))
      (hvariables : DeclaresIn j declared)
      (hselection : ∃ s, j.get? "selectionSet" = some s ∧ s.isNull = false) :
      IsDefinitionOf j (.operation kind name declared)
  | fragment {name type : Name} (hkind : HasKind j "FragmentDefinition")
      (hname : HasName j name)
      (htype : ∃ t, j.get? "typeCondition" = some t ∧ HasName t type) :
      IsDefinitionOf j (.fragment name type)

structure IsDocumentOf (j : Json) (ds : List Definition) : Prop where
  kind : HasKind j "Document"
  definitions : ∃ js, j.get? "definitions" = some (.array js) ∧ List.Forall₂ IsDefinitionOf js ds

/-! ## Rebuilding -/

theorem HasKind.kindName?_eq {j : Json} {kind : String} (h : HasKind j kind) :
    kindName? j = some kind := by
  rw [kindName?, show j.get? "kind" = _ from h]
  rfl

theorem HasName.nameOf?_eq {j : Json} {name : Name} (h : HasName j name) :
    nameOf? j = some name.text := by
  obtain ⟨n, hn, hvalue⟩ := h
  rw [nameOf?, hn, Option.bind_some, hvalue]
  rfl

theorem Lacks.nameOf?_eq {j : Json} (h : Lacks j "name") : nameOf? j = none := by
  cases hn : j.get? "name" with
  | none => rw [nameOf?, hn, Option.bind_none]
  | some n =>
      obtain rfl := h n hn
      rw [nameOf?, hn]
      rfl

theorem innerType_eq {members : List (String × Json)} {inner : Json}
    (h : (Json.object members).get? "type" = some inner) :
    innerType members = typeText inner := by
  have hlookup : members.lookup "type" = some inner := h
  clear h
  induction members with
  | nil => cases hlookup
  | cons m members ih =>
      obtain ⟨key, value⟩ := m
      rw [innerType]
      by_cases hkey : key = "type"
      · subst hkey
        rw [List.lookup_cons_self] at hlookup
        obtain rfl := Option.some.inj hlookup
        rw [if_pos (beq_self_eq_true _)]
      · have hne : ("type" == key) = false := beq_eq_false_iff_ne.mpr (Ne.symm hkey)
        rw [List.lookup_cons, hne] at hlookup
        rw [if_neg (by simpa using hkey), ih hlookup]

/-- Only objects have members. -/
theorem exists_object_of_get? {j value : Json} {key : String} (h : j.get? key = some value) :
    ∃ members, j = .object members := by
  cases j with
  | object members => exact ⟨members, rfl⟩
  | _ => cases h

theorem typeText_of_isTypeOf {j : Json} {t : TypeExpr} (h : IsTypeOf j t) :
    typeText j = t.text := by
  induction h with
  | named hkind hname =>
      obtain ⟨members, rfl⟩ := exists_object_of_get? hkind
      simp only [typeText, hkind.kindName?_eq, hname.nameOf?_eq]
      rfl
  | list hkind htype _ ih =>
      obtain ⟨members, rfl⟩ := exists_object_of_get? hkind
      simp only [typeText, hkind.kindName?_eq, innerType_eq htype, ih]
      rfl
  | nonNull hkind htype _ ih =>
      obtain ⟨members, rfl⟩ := exists_object_of_get? hkind
      simp only [typeText, hkind.kindName?_eq, innerType_eq htype, ih]
      rfl

theorem variableText?_of_isVariableOf {j : Json} {v : Variable} (h : IsVariableOf j v) :
    variableText? j = some v.text := by
  obtain ⟨⟨x, hx, hname⟩, t, ht, htype⟩ := h
  simp only [variableText?, hx, ht, Option.bind_some, hname.nameOf?_eq, Option.bind_eq_bind,
    typeText_of_isTypeOf htype]
  rfl

/-- What is read off each member of a list of compiled forms. -/
theorem filterMap_of_forall₂ {α β γ : Type} {R : α → β → Prop} {f : α → Option γ} {g : β → γ}
    {as : List α} {bs : List β} (h : List.Forall₂ R as bs)
    (hf : ∀ {a b}, R a b → f a = some (g b)) : as.filterMap f = bs.map g := by
  induction h with
  | nil => rfl
  | cons hab _ ih => rw [List.filterMap_cons, hf hab, List.map_cons, ih]

theorem DeclaresIn.texts {j : Json} {vs : List Variable} (h : DeclaresIn j vs) :
    (((j.get? "variableDefinitions").bind Json.array?).getD []).filterMap variableText?
      = vs.map Variable.text := by
  cases h with
  | missing hnone =>
      cases hget : j.get? "variableDefinitions" with
      | none => rfl
      | some value =>
          obtain rfl := hnone value hget
          rfl
  | listed hlist hall =>
      rw [hlist]
      exact filterMap_of_forall₂ hall variableText?_of_isVariableOf

theorem Name.isEmpty_text (name : Name) : name.text.isEmpty = false := by
  cases hempty : name.text.isEmpty with
  | false => rfl
  | true =>
      have hvalid := name.valid
      rw [String.isEmpty_iff.mp hempty] at hvalid
      cases hvalid

theorem operationText?_of_members {j s : Json} {kind : OperationKind} {name : Option Name}
    {declared : List Variable} (hoperation : j.get? "operation" = some (.string kind.keyword))
    (hname : name.elim (Lacks j "name") (HasName j)) (hvariables : DeclaresIn j declared)
    (hs : j.get? "selectionSet" = some s) (hnull : s.isNull = false) :
    operationText? j = some (Definition.operation kind name declared).text := by
  have hheader : ((nameOf? j).filter (!·.isEmpty)).elim "" (" " ++ ·)
      = name.elim "" (" " ++ ·.text) := by
    cases name with
    | none => rw [Lacks.nameOf?_eq hname]; rfl
    | some n => simp [HasName.nameOf?_eq hname, Option.filter, n.isEmpty_text]
  simp only [operationText?, hoperation, hs, hvariables.texts, hheader, Option.bind_eq_bind,
    Option.bind_some, Json.string?, hnull, Bool.not_false, guard_true, List.isEmpty_map]
  rfl

theorem definitionText?_of_isDefinitionOf {j : Json} {d : Definition} (h : IsDefinitionOf j d) :
    definitionText? j = some d.text := by
  cases h with
  | operation hkind hoperation hname hvariables hselection =>
      obtain ⟨s, hs, hnull⟩ := hselection
      simp only [definitionText?, hkind.kindName?_eq]
      exact operationText?_of_members hoperation hname hvariables hs hnull
  | fragment hkind hname htype =>
      obtain ⟨t, ht, htype⟩ := htype
      simp only [definitionText?, hkind.kindName?_eq, fragmentText?, hname.nameOf?_eq, ht,
        Option.bind_some, htype.nameOf?_eq, Option.bind_eq_bind]
      rfl

/-- From the compiled form of a document its headers are rebuilt. -/
theorem rebuild?_of_isDocumentOf {j : Json} {d : Definition} {ds : List Definition}
    (h : IsDocumentOf j (d :: ds)) : rebuild? j = some (documentText (d :: ds)) := by
  obtain ⟨hkind, js, hjs, hall⟩ := h
  have htexts := filterMap_of_forall₂ hall definitionText?_of_isDefinitionOf
  simp only [rebuild?, hkind.kindName?_eq, hjs, htexts, List.map_cons, Option.bind_eq_bind,
    Option.bind_some, Json.array?, beq_self_eq_true, guard_true]
  rfl

end ScriptScout.Graphql
