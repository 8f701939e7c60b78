import ScriptScout.Analysis.GraphqlText
import ScriptScout.Proofs.JsonOrder

/-!
# One value as text and as literals

A compiled document stands in a script either as JSON text or as an
object of literals. `Denotes` says which expressions stand for a
value: their spans are free, and so is the order of an object's
properties. Literal numbers are doubles, so such an expression gives
the value with its numbers turned into doubles (`Json.inReals`), and
nothing that goes into the text of a document can tell the two apart.
-/

namespace ScriptScout

/-! ## Numbers as doubles -/

namespace Json

/-- The double that a script has for a number. -/
def Number.toReal : Number → Float
  | .int n => Float.ofInt n
  | .real x => x

mutual

/-- The value with every number as a double. -/
def inReals : Json → Json
  | .number n => .number (.real n.toReal)
  | .array items => .array (itemsInReals items)
  | .object members => .object (membersInReals members)
  | other => other

def itemsInReals : List Json → List Json
  | [] => []
  | j :: rest => j.inReals :: itemsInReals rest

def membersInReals : List (String × Json) → List (String × Json)
  | [] => []
  | (name, j) :: rest => (name, j.inReals) :: membersInReals rest

end

theorem itemsInReals_eq_map (items : List Json) : itemsInReals items = items.map inReals := by
  induction items with
  | nil => rfl
  | cons j rest ih => rw [itemsInReals, ih, List.map_cons]

theorem membersInReals_eq_map (members : List (String × Json)) :
    membersInReals members = members.map fun m => (m.1, m.2.inReals) := by
  induction members with
  | nil => rfl
  | cons m rest ih => rw [membersInReals, ih, List.map_cons]

theorem lookup_membersInReals (name : String) (members : List (String × Json)) :
    (membersInReals members).lookup name = (members.lookup name).map inReals := by
  induction members with
  | nil => rfl
  | cons m rest ih =>
      obtain ⟨key, j⟩ := m
      simp only [membersInReals, List.lookup_cons]
      split
      · rfl
      · exact ih

theorem membersInReals_increasing {members : List (String × Json)} (h : Increasing members) :
    Increasing (membersInReals members) := by
  rw [membersInReals_eq_map]
  exact List.pairwise_map.mpr h

/-! What a value shows of itself, its numbers apart, stays as it is. -/

theorem get?_inReals (j : Json) (name : String) :
    j.inReals.get? name = (j.get? name).map inReals := by
  cases j with
  | object members => rw [inReals]; exact lookup_membersInReals name members
  | _ => rfl

theorem string?_inReals (j : Json) : j.inReals.string? = j.string? := by
  cases j <;> rfl

theorem array?_inReals (j : Json) : j.inReals.array? = j.array?.map (·.map inReals) := by
  cases j with
  | array items => simp only [inReals, array?, itemsInReals_eq_map, Option.map_some]
  | _ => rfl

theorem isNull_inReals (j : Json) : j.inReals.isNull = j.isNull := by
  cases j <;> rfl

theorem get?_string?_inReals (j : Json) (name : String) :
    (j.inReals.get? name).bind string? = (j.get? name).bind string? := by
  simp only [get?_inReals, Option.bind_map, Function.comp_def, string?_inReals]

theorem get?_array?_inReals (j : Json) (name : String) :
    (j.inReals.get? name).bind array? = ((j.get? name).bind array?).map (·.map inReals) := by
  simp only [get?_inReals, Option.bind_map, Function.comp_def, array?_inReals, Option.map_bind]

/-- A reader that does not see the change sees none in a list. -/
theorem filterMap_inReals {α : Type} {f : Json → Option α} (hf : ∀ j, f j.inReals = f j)
    (items : List Json) : (items.map inReals).filterMap f = items.filterMap f := by
  rw [List.filterMap_map]
  exact congrArg (List.filterMap · items) (funext hf)

/-- Every number in the value is finite as a double. -/
def IsFinite (j : Json) : Prop :=
  ∀ n, Contains j (.number n) → n.toReal.isFinite = true

@[simp]
theorem isFinite_string (s : String) : IsFinite (.string s) := by
  intro n hcontains
  cases hcontains

@[simp]
theorem isFinite_number {n : Number} : IsFinite (.number n) ↔ n.toReal.isFinite = true := by
  constructor
  · exact fun h => h n (.self _)
  · intro h m hcontains
    cases hcontains
    exact h

@[simp]
theorem isFinite_array {items : List Json} :
    IsFinite (.array items) ↔ ∀ j ∈ items, IsFinite j := by
  constructor
  · exact fun h j hj n hcontains => h n (.item hj hcontains)
  · intro h n hcontains
    cases hcontains with
    | item hj hinner => exact h _ hj n hinner

@[simp]
theorem isFinite_object {members : List (String × Json)} :
    IsFinite (.object members) ↔ ∀ m ∈ members, IsFinite m.2 := by
  constructor
  · exact fun h m hm n hcontains => h n (.member hm hcontains)
  · intro h n hcontains
    cases hcontains with
    | member hm hinner => exact h _ hm n hinner

end Json

/-! ## Documents -/

namespace Graphql

open Json

theorem kindName?_inReals (j : Json) : kindName? j.inReals = kindName? j :=
  get?_string?_inReals j "kind"

theorem nameOf?_inReals (j : Json) : nameOf? j.inReals = nameOf? j := by
  simp only [nameOf?, get?_inReals j, Option.bind_map, Function.comp_def, get?_string?_inReals]

mutual

theorem typeText_inReals : ∀ j : Json, typeText j.inReals = typeText j
  | .object members => by
      have hkind := kindName?_inReals (.object members)
      have hname := nameOf?_inReals (.object members)
      rw [inReals] at hkind hname ⊢
      simp only [typeText, hkind, hname, innerType_inReals members]
  | .null => rfl
  | .bool _ => rfl
  | .number _ => rfl
  | .string _ => rfl
  | .array _ => rfl

theorem innerType_inReals : ∀ members : List (String × Json),
    innerType (membersInReals members) = innerType members
  | [] => rfl
  | (key, j) :: rest => by
      simp only [membersInReals, innerType, typeText_inReals j, innerType_inReals rest]

end

theorem variableText?_inReals (j : Json) : variableText? j.inReals = variableText? j := by
  simp only [variableText?, get?_inReals, Option.bind_map, Function.comp_def, nameOf?_inReals,
    typeText_inReals, Option.bind_eq_bind]

theorem operationText?_inReals (j : Json) : operationText? j.inReals = operationText? j := by
  have hdeclared : (((j.inReals.get? "variableDefinitions").bind array?).getD []).filterMap
      variableText? = (((j.get? "variableDefinitions").bind array?).getD []).filterMap
        variableText? := by
    rw [get?_array?_inReals]
    cases (j.get? "variableDefinitions").bind array? with
    | none => rfl
    | some items => exact filterMap_inReals variableText?_inReals items
  simp only [operationText?, hdeclared, nameOf?_inReals, get?_string?_inReals]
  simp only [get?_inReals, Option.bind_eq_bind, Option.bind_map, Function.comp_def,
    isNull_inReals]

theorem fragmentText?_inReals (j : Json) : fragmentText? j.inReals = fragmentText? j := by
  simp only [fragmentText?, get?_inReals, Option.bind_map, Function.comp_def, nameOf?_inReals]

theorem definitionText?_inReals (j : Json) : definitionText? j.inReals = definitionText? j := by
  simp only [definitionText?, kindName?_inReals, operationText?_inReals, fragmentText?_inReals]

/-- The text of a document does not depend on how its numbers are
kept. -/
theorem rebuild?_inReals (j : Json) : rebuild? j.inReals = rebuild? j := by
  simp only [rebuild?, kindName?_inReals, get?_array?_inReals, Option.bind_eq_bind,
    Option.bind_map, Function.comp_def, filterMap_inReals definitionText?_inReals]

/-! ## Expressions that stand for a value -/

/-- A name as the key of a property, with or without quotes. -/
inductive IsKey : Node → String → Prop
  | identifier (span : Span) (name : String) : IsKey (.identifier span name) name
  | string (span : Span) (name : String) : IsKey (.literal span (.string name)) name

mutual

/-- The expression consists of literals and stands for the value. -/
inductive Denotes : Node → Json → Prop
  | null (span : Span) : Denotes (.literal span .null) .null
  | bool (span : Span) (b : Bool) : Denotes (.literal span (.boolean b)) (.bool b)
  | number (span : Span) (n : Number) :
      Denotes (.literal span (.number n.toReal)) (.number n)
  | string (span : Span) (s : String) : Denotes (.literal span (.string s)) (.string s)
  | array (span : Span) {elements : List Node} {items : List Json}
      (hitems : DenotesItems elements items) : Denotes (.array span elements) (.array items)
  | object (span : Span) {properties : List Node} {written members : List (String × Json)}
      (hwritten : DenotesMembers properties written) (hsame : written.Perm members) :
      Denotes (.object span properties) (.object members)

/-- One element for each item. -/
inductive DenotesItems : List Node → List Json → Prop
  | nil : DenotesItems [] []
  | cons {element : Node} {j : Json} {elements : List Node} {items : List Json}
      (hhead : Denotes element j) (htail : DenotesItems elements items) :
      DenotesItems (element :: elements) (j :: items)

/-- One property for each member. -/
inductive DenotesMembers : List Node → List (String × Json) → Prop
  | nil : DenotesMembers [] []
  | cons (span : Span) (shorthand : Bool) {key value : Node} {name : String} {j : Json}
      {properties : List Node} {written : List (String × Json)}
      (hkey : IsKey key name) (hvalue : Denotes value j)
      (htail : DenotesMembers properties written) :
      DenotesMembers (.property span key value shorthand :: properties) ((name, j) :: written)

end

theorem IsKey.name_eq {key : Node} {name : String} (h : IsKey key name) :
    key.identifier?.or key.string? = some name := by
  cases h <;> rfl

mutual

/-- The literals of a value give it back, with doubles for its
numbers. The recursion is on the derivation, with one statement for each
of the three relations. -/
theorem literalJson?_of_denotes : ∀ {t : Node} {j : Json}, Denotes t j → IsOrdered j →
    IsFinite j → literalJson? t = some j.inReals
  | _, _, .null _, _, _ => rfl
  | _, _, .bool _ _, _, _ => rfl
  | _, _, .string _ _, _, _ => rfl
  | _, _, .number _ n, _, hfinite => by
      simp only [literalJson?, literalValue?, if_pos (isFinite_number.mp hfinite), inReals]
  | _, _, .array _ hitems, hordered, hfinite => by
      have hread := literalItems?_of_denotes hitems (isOrdered_array.mp hordered)
        (isFinite_array.mp hfinite)
      rw [literalJson?, hread, inReals, Option.map_some]
  | _, _, .object _ hwritten hsame, hordered, hfinite => by
      obtain ⟨hnames, hordereds⟩ := isOrdered_object.mp hordered
      have hfinites := isFinite_object.mp hfinite
      have hread := literalMembers?_of_denotes hwritten
        (fun m hm => hordereds m (hsame.mem_iff.mp hm))
        (fun m hm => hfinites m (hsame.mem_iff.mp hm))
      -- the order of the properties is lost when the object is made
      have hperm := hsame.map fun m => (m.1, m.2.inReals)
      rw [← membersInReals_eq_map, ← membersInReals_eq_map] at hperm
      rw [literalJson?, hread, inReals, Option.map_some,
        ofMembers_of_perm hperm (membersInReals_increasing hnames)]

theorem literalItems?_of_denotes : ∀ {elements : List Node} {items : List Json},
    DenotesItems elements items → (∀ j ∈ items, IsOrdered j) → (∀ j ∈ items, IsFinite j) →
    literalItems? elements = some (itemsInReals items)
  | _, _, .nil, _, _ => rfl
  | _, _, .cons hhead htail, hordered, hfinite => by
      obtain ⟨hordered, hordereds⟩ := List.forall_mem_cons.mp hordered
      obtain ⟨hfinite, hfinites⟩ := List.forall_mem_cons.mp hfinite
      have hfirst := literalJson?_of_denotes hhead hordered hfinite
      have hrest := literalItems?_of_denotes htail hordereds hfinites
      simp only [literalItems?, hfirst, hrest, itemsInReals, Option.bind_eq_bind,
        Option.bind_some, Option.pure_def]

theorem literalMembers?_of_denotes : ∀ {properties : List Node}
    {written : List (String × Json)}, DenotesMembers properties written →
    (∀ m ∈ written, IsOrdered m.2) → (∀ m ∈ written, IsFinite m.2) →
    literalMembers? properties = some (membersInReals written)
  | _, _, .nil, _, _ => rfl
  | _, _, .cons _ _ hkey hvalue htail, hordered, hfinite => by
      obtain ⟨hordered, hordereds⟩ := List.forall_mem_cons.mp hordered
      obtain ⟨hfinite, hfinites⟩ := List.forall_mem_cons.mp hfinite
      have hfirst := literalJson?_of_denotes hvalue hordered hfinite
      have hrest := literalMembers?_of_denotes htail hordereds hfinites
      simp only [literalMembers?, hkey.name_eq, hfirst, hrest, membersInReals,
        Option.bind_eq_bind, Option.bind_some, Option.pure_def]

end

/-- Every member has its property. -/
theorem DenotesMembers.exists_property {properties : List Node} {written : List (String × Json)}
    (h : DenotesMembers properties written) {m : String × Json} (hm : m ∈ written) :
    ∃ p ∈ properties, p.propertyKey? = some m.1 ∧
      ∃ value, p.propertyValue? = some value ∧ Denotes value m.2 := by
  induction properties generalizing written with
  | nil =>
      cases h
      cases hm
  | cons p properties ih =>
      cases h with
      | cons span shorthand hkey hvalue htail =>
          rcases List.mem_cons.mp hm with rfl | hm
          · exact ⟨_, List.mem_cons_self .., hkey.name_eq, _, rfl, hvalue⟩
          · obtain ⟨q, hq, hfound⟩ := ih htail hm
            exact ⟨q, List.mem_cons_of_mem _ hq, hfound⟩

theorem mem_of_get? {members : List (String × Json)} {name : String} {j : Json}
    (h : (Json.object members).get? name = some j) : (name, j) ∈ members := by
  obtain ⟨before, after, rfl, -⟩ := List.lookup_eq_some_iff.mp h
  exact List.mem_append_right before (List.mem_cons_self ..)

theorem eq_string_of_string? {j : Json} {s : String} (h : j.string? = some s) :
    j = .string s := by
  cases j with
  | string _ => exact congrArg Json.string (Option.some.inj h)
  | _ => cases h

/-- What a value holds from which a text is rebuilt. -/
theorem rebuild?_eq_some {j : Json} {text : String} (h : rebuild? j = some text) :
    j.get? "kind" = some (.string "Document") ∧
      ∃ definitions, j.get? "definitions" = some definitions := by
  simp only [rebuild?, Option.bind_eq_bind, Option.bind_eq_some_iff] at h
  obtain ⟨_, hguard, _, ⟨definitions, hdefinitions, -⟩, -⟩ := h
  have hkind : kindName? j = some "Document" := by
    by_contra hother
    rw [guard, if_neg (mt beq_iff_eq.mp hother)] at hguard
    cases hguard
  obtain ⟨kind, hget, hstring⟩ := Option.bind_eq_some_iff.mp hkind
  rw [eq_string_of_string? hstring] at hget
  exact ⟨hget, definitions, hdefinitions⟩

/-- An object of literals that stands for a document is taken for
one. -/
theorem isDocumentObject_of_denotes {t : Node} {j : Json} {text : String} (h : Denotes t j)
    (htext : rebuild? j = some text) : isDocumentObject t = true := by
  obtain ⟨hkind, definitions, hdefinitions⟩ := rebuild?_eq_some htext
  cases h with
  | object span hwritten hsame =>
      obtain ⟨kind, hkindMem, hkindKey, value, hvalue, hdocument⟩ :=
        hwritten.exists_property (hsame.mem_iff.mpr (mem_of_get? hkind))
      obtain ⟨field, hfieldMem, hfieldKey, -⟩ :=
        hwritten.exists_property (hsame.mem_iff.mpr (mem_of_get? hdefinitions))
      cases hdocument
      simp only [isDocumentObject, Bool.and_eq_true, List.any_eq_true, beq_iff_eq]
      refine ⟨⟨kind, hkindMem, hkindKey, ?_⟩, field, hfieldMem, hfieldKey⟩
      rw [hvalue]
      rfl
  | _ => cases hkind

theorem decodedDocument?_of_parse {callee argument : Node} {source : String} {j : Json}
    (hcallee : callee.isMemberOf "JSON" "parse" = true) (hargument : argument.string? = some source)
    (hparse : Json.parse source = some j) (more : List Node) :
    GraphqlText.decodedDocument? callee (argument :: more) =
      (rebuild? j).map (argument.span, ·) := by
  simp only [GraphqlText.decodedDocument?, hcallee, guard, if_true, List.head?_cons,
    Option.bind_eq_bind, Option.pure_def, Option.bind_some, hargument, hparse,
    Option.map_eq_bind, Function.comp_def]

/-- **A document is rebuilt alike from literals and from JSON text.**
Literals that stand for a value give it back with doubles for its
numbers, and the text that is rebuilt, from the object as from the call
that decodes the text, is that of the value. -/
theorem rebuilt_of_denotes {t : Node} {j : Json} (hdenotes : Denotes t j)
    (hordered : IsOrdered j) (hfinite : IsFinite j) :
    literalJson? t = some j.inReals ∧
    (literalJson? t).bind rebuild? = rebuild? j ∧
    (∀ text, rebuild? j = some text → GraphqlText.objectDocument? t = some text) ∧
    ∀ (callee argument : Node) (more : List Node) (source : String),
      callee.isMemberOf "JSON" "parse" = true → argument.string? = some source →
      Json.parse source = some j →
      GraphqlText.decodedDocument? callee (argument :: more) =
        ((literalJson? t).bind rebuild?).map (argument.span, ·) := by
  have hvalue := literalJson?_of_denotes hdenotes hordered hfinite
  have hrebuilt : (literalJson? t).bind rebuild? = rebuild? j := by
    rw [hvalue, Option.bind_some, rebuild?_inReals]
  refine ⟨hvalue, hrebuilt, ?_, ?_⟩
  · intro text htext
    rw [GraphqlText.objectDocument?, if_pos (isDocumentObject_of_denotes hdenotes htext),
      hrebuilt, htext, Option.getD_some]
  · intro callee argument more source hcallee hargument hparse
    rw [hrebuilt, decodedDocument?_of_parse hcallee hargument hparse]

/-! A document with one operation in both forms. As an object it has
its properties in another order than that of the names, and quotes
only some of the keys. -/

def feedText : String :=
  "\x7b\"kind\": \"Document\", \"definitions\": [\x7b\"kind\": \"OperationDefinition\", "
    ++ "\"operation\": \"query\", \"selectionSet\": \x7b\"loc\": 3\x7d\x7d]\x7d"

def feedOperation : Json :=
  .object [("kind", .string "OperationDefinition"), ("operation", .string "query"),
    ("selectionSet", .object [("loc", .number (.int 3))])]

def feedValue : Json :=
  .object [("definitions", .array [feedOperation]), ("kind", .string "Document")]

def feedOperationObject : Node :=
  .object ⟨35, 110⟩ [
    .property ⟨36, 63⟩ (.identifier ⟨36, 40⟩ "kind")
      (.literal ⟨42, 63⟩ (.string "OperationDefinition")) false,
    .property ⟨65, 89⟩ (.literal ⟨65, 79⟩ (.string "selectionSet"))
      (.object ⟨81, 89⟩ [
        .property ⟨82, 88⟩ (.identifier ⟨82, 85⟩ "loc")
          (.literal ⟨87, 88⟩ (.number 3)) false]) false,
    .property ⟨91, 109⟩ (.identifier ⟨91, 100⟩ "operation")
      (.literal ⟨102, 109⟩ (.string "query")) false]

def feedObject : Node :=
  .object ⟨0, 112⟩ [
    .property ⟨1, 17⟩ (.identifier ⟨1, 5⟩ "kind") (.literal ⟨7, 17⟩ (.string "Document")) false,
    .property ⟨19, 111⟩ (.literal ⟨19, 32⟩ (.string "definitions"))
      (.array ⟨34, 111⟩ [feedOperationObject]) false]

theorem denotes_feedOperation : Denotes feedOperationObject feedOperation := by
  have hselection := Denotes.object ⟨81, 89⟩
    (.cons ⟨82, 88⟩ false (.identifier ⟨82, 85⟩ "loc") (.number ⟨87, 88⟩ (.int 3)) .nil) (.refl _)
  refine .object _ (.cons _ _ (.identifier ..) (.string ..) (.cons _ _ (.string ..) hselection
    (.cons _ _ (.identifier ..) (.string ..) .nil))) ?_
  exact (List.Perm.swap ..).cons _

theorem denotes_feed : Denotes feedObject feedValue := by
  have hdefinitions := Denotes.array ⟨34, 111⟩ (.cons denotes_feedOperation .nil)
  refine .object _ (.cons _ _ (.identifier ..) (.string ..)
    (.cons _ _ (.string ..) hdefinitions .nil)) ?_
  exact .swap ..

/-- The function that a script decodes JSON with. -/
def jsonParse : Node :=
  .member ⟨0, 10⟩ (.identifier ⟨0, 4⟩ "JSON") (.identifier ⟨5, 10⟩ "parse") false

def feedArgument : Node := .literal ⟨11, 133⟩ (.string feedText)

theorem rebuilt_of_denotes_feed :
    Denotes feedObject feedValue ∧ Json.parse feedText = some feedValue ∧
    literalJson? feedObject = some feedValue.inReals ∧
    GraphqlText.objectDocument? feedObject =
      some "query \x7b\n  # [Reconstructed from AST]\n\x7d" ∧
    GraphqlText.decodedDocument? jsonParse [feedArgument] =
      (GraphqlText.objectDocument? feedObject).map (feedArgument.span, ·) := by
  have hparse : Json.parse feedText = some feedValue := by
    set_option maxRecDepth 1000 in rfl
  have hfinite : IsFinite feedValue := by
    have hloc : (Number.int 3).toReal.isFinite = true := by decide
    simp [feedValue, feedOperation, hloc]
  have htext : rebuild? feedValue = some "query \x7b\n  # [Reconstructed from AST]\n\x7d" := rfl
  obtain ⟨hvalue, hrebuilt, hobject, hdecoded⟩ :=
    rebuilt_of_denotes denotes_feed (isOrdered_of_parse hparse) hfinite
  refine ⟨denotes_feed, hparse, hvalue, hobject _ htext, ?_⟩
  rw [hdecoded jsonParse feedArgument [] feedText rfl rfl hparse, hrebuilt, htext,
    hobject _ htext]

end Graphql

end ScriptScout
