import Mathlib.Data.List.Forall2
import Mathlib.Logic.Relation
import ScriptScout.Proofs.Concatenation
import ScriptScout.Proofs.Shapes

/-!
# Runs of the concatenation machine

`Node.Concatenates` says what a concatenation denotes, shape by shape
and without a machine: a sum what its two sides denote, a call of
`concat` what its receiver denotes and what its arguments stand for.

The machine is looked at turn by turn (`Writing.turn`). Every run ends
with nothing pending (`exists_run`), and from a concatenation it ends
with the text that the concatenation denotes. A turn never makes a
placeholder pending: a call is taken apart only if a member named
`concat` is called, and then it has a receiver
(`placeholder_not_mem_split`).

What a concatenation denotes does not depend on how its sums are
grouped (`Regrouped.chainText_eq`).
-/

namespace ScriptScout

namespace Node

/-! ## What a concatenation denotes -/

/-- A sum, or a call of `concat` on some receiver. -/
inductive IsConcatenation : Node → Prop
  | sum (span : Span) (left right : Node) : IsConcatenation (binary span "+" left right)
  | call (span inner name : Span) (receiver : Node) (arguments : List Node) :
      IsConcatenation (call span (member inner receiver (identifier name "concat") false) arguments)

/-- What an operand stands for: a string for itself, a name for what it
is bound to, and anything else for the placeholder. -/
inductive StandsFor (b : Bindings) : Node → String → Prop
  | string (span : Span) (value : String) : StandsFor b (literal span (.string value)) value
  | bound (span : Span) {name value : String} (h : b.get? name = some value) :
      StandsFor b (identifier span name) value
  | unknown {n : Node} (hstring : ∀ span value, n ≠ literal span (.string value))
      (hunbound : ∀ span name, n = identifier span name → b.get? name = none) :
      StandsFor b n placeholder

/-- The text that an expression contributes to a concatenation. -/
inductive Concatenates (b : Bindings) : Node → String → Prop
  | sum (span : Span) {left right : Node} {s t : String}
      (hleft : Concatenates b left s) (hright : Concatenates b right t) :
      Concatenates b (binary span "+" left right) (s ++ t)
  | call (span inner name : Span) {receiver : Node} {arguments : List Node} {s : String}
      {ts : List String} (hreceiver : Concatenates b receiver s)
      (harguments : List.Forall₂ (StandsFor b) arguments ts) :
      Concatenates b (call span (member inner receiver (identifier name "concat") false) arguments)
        (s ++ String.join ts)
  | operand {n : Node} {t : String} (hother : ¬n.IsConcatenation) (h : StandsFor b n t) :
      Concatenates b n t

theorem standsFor_operand (b : Bindings) (n : Node) : n.StandsFor b (n.operand b) := by
  cases n with
  | literal span value =>
      cases value with
      | string value => exact .string span value
      | _ => exact .unknown (fun _ _ => nofun) (fun _ _ => nofun)
  | identifier span name =>
      cases hget : b.get? name with
      | some value =>
          have hoperand : (identifier span name).operand b = value := by
            simp [Node.operand, string?, identifier?, hget]
          rw [hoperand]
          exact .bound span hget
      | none =>
          have hoperand : (identifier span name).operand b = placeholder := by
            simp [Node.operand, string?, identifier?, hget]
          rw [hoperand]
          refine .unknown (fun _ _ => nofun) fun span' name' heq => ?_
          cases heq
          exact hget
  | _ => exact .unknown (fun _ _ => nofun) (fun _ _ => nofun)

theorem StandsFor.eq_operand {b : Bindings} {n : Node} {t : String} (h : n.StandsFor b t) :
    t = n.operand b := by
  cases h with
  | string span value => rfl
  | bound span hget => simp [Node.operand, string?, identifier?, hget]
  | unknown hstring hunbound =>
      cases n with
      | literal span value =>
          cases value with
          | string value => exact absurd rfl (hstring span value)
          | _ => rfl
      | identifier span name =>
          simp [Node.operand, string?, identifier?, hunbound span name rfl]
      | _ => rfl

/-- A member with a name is a receiver, a dot and the name. -/
theorem exists_eq_named_member {callee : Node} {name : String}
    (h : callee.memberName? = some name) :
    ∃ span receiver inner, callee = member span receiver (identifier inner name) false := by
  obtain ⟨span, receiver, property, rfl⟩ := exists_eq_member h
  have hproperty : property.identifier? = some name := by
    simpa [memberName?, member?, Function.comp_def] using h
  obtain ⟨inner, rfl⟩ := eq_identifier hproperty
  exact ⟨span, receiver, inner, rfl⟩

theorem isSome_split?_iff {n : Node} : (Part.split? n).isSome = true ↔ n.IsConcatenation := by
  constructor
  · intro h
    cases n with
    | binary span operator left right =>
        by_cases hplus : (operator == "+") = true
        · obtain rfl := beq_iff_eq.mp hplus
          exact .sum span left right
        · have hnone : Part.split? (binary span operator left right) = none := if_neg hplus
          rw [hnone] at h
          cases h
    | call span callee arguments =>
        by_cases hconcat : (callee.memberName? == some "concat") = true
        · obtain ⟨inner, receiver, name, rfl⟩ := exists_eq_named_member (beq_iff_eq.mp hconcat)
          exact .call span inner name receiver arguments
        · have hnone : Part.split? (call span callee arguments) = none := if_neg hconcat
          rw [hnone] at h
          cases h
    | _ => cases h
  · rintro (_ | _)
    · rfl
    · rfl

theorem split?_eq_none_iff {n : Node} : Part.split? n = none ↔ ¬n.IsConcatenation := by
  rw [← isSome_split?_iff, Option.not_isSome_iff_eq_none]

theorem chainText_of_not_isConcatenation {b : Bindings} {n : Node} (h : ¬n.IsConcatenation) :
    n.chainText b = n.operand b :=
  Part.chainText_of_split_none (split?_eq_none_iff.mpr h)

theorem chainText_sum (b : Bindings) (span : Span) (left right : Node) :
    (binary span "+" left right).chainText b = left.chainText b ++ right.chainText b := by
  rw [chainText, if_pos (beq_self_eq_true _)]

theorem chainText_call (b : Bindings) (span inner name : Span) (receiver : Node)
    (arguments : List Node) :
    (call span (member inner receiver (identifier name "concat") false) arguments).chainText b
      = receiver.chainText b ++ String.join (arguments.map (Node.operand b)) := rfl

theorem concatenates_chainText (b : Bindings) (n : Node) : n.Concatenates b (n.chainText b) := by
  by_cases h : n.IsConcatenation
  · cases h with
    | sum span left right =>
        rw [chainText_sum]
        exact .sum span (concatenates_chainText b left) (concatenates_chainText b right)
    | call span inner name receiver arguments =>
        rw [chainText_call]
        refine .call span inner name (concatenates_chainText b receiver) ?_
        rw [List.forall₂_map_right_iff, List.forall₂_same]
        exact fun argument _ => standsFor_operand b argument
  · rw [chainText_of_not_isConcatenation h]
    exact .operand h (standsFor_operand b n)
termination_by sizeOf n

theorem eq_map_operand {b : Bindings} {arguments : List Node} {ts : List String}
    (h : List.Forall₂ (StandsFor b) arguments ts) : ts = arguments.map (Node.operand b) := by
  induction h with
  | nil => rfl
  | cons hfirst _ ih => rw [List.map_cons, ← hfirst.eq_operand, ← ih]

/-- A concatenation denotes one text, the one that the machine is known
to compute. -/
theorem Concatenates.eq_chainText {b : Bindings} {n : Node} {t : String}
    (h : n.Concatenates b t) : t = n.chainText b := by
  induction h with
  | sum span _ _ ihleft ihright => rw [chainText_sum, ihleft, ihright]
  | call span inner name _ harguments ih => rw [chainText_call, ih, eq_map_operand harguments]
  | operand hother hstands => rw [chainText_of_not_isConcatenation hother, hstands.eq_operand]

theorem resolve_of_isConcatenation {n : Node} (h : n.IsConcatenation) (b : Bindings) :
    n.resolve b = some (n.chainText b) := by
  cases h with
  | sum span left right => rw [resolve_plus, chainText_sum]
  | call span inner name receiver arguments =>
      exact congrArg some (runParts_concat b
        (call span (member inner receiver (identifier name "concat") false) arguments))

/-! ## Grouping -/

/-- Two expressions that differ in how the sums of a concatenation are
grouped, and in spans. -/
inductive Regrouped : Node → Node → Prop
  | refl (n : Node) : Regrouped n n
  | symm {n m : Node} (h : Regrouped n m) : Regrouped m n
  | trans {n m k : Node} (h : Regrouped n m) (h' : Regrouped m k) : Regrouped n k
  | rotate (outer inner outer' inner' : Span) (first second third : Node) :
      Regrouped (binary outer "+" (binary inner "+" first second) third)
        (binary outer' "+" first (binary inner' "+" second third))
  | sum (span span' : Span) {left left' right right' : Node} (hleft : Regrouped left left')
      (hright : Regrouped right right') :
      Regrouped (binary span "+" left right) (binary span' "+" left' right')
  | receiver (span inner name span' inner' name' : Span) {receiver receiver' : Node}
      (arguments : List Node) (h : Regrouped receiver receiver') :
      Regrouped (call span (member inner receiver (identifier name "concat") false) arguments)
        (call span' (member inner' receiver' (identifier name' "concat") false) arguments)

theorem Regrouped.chainText_eq {n m : Node} (h : Regrouped n m) (b : Bindings) :
    n.chainText b = m.chainText b := by
  induction h with
  | refl n => rfl
  | symm _ ih => exact ih.symm
  | trans _ _ ih ih' => exact ih.trans ih'
  | rotate outer inner outer' inner' first second third =>
      simp only [chainText_sum, String.append_assoc]
  | sum span span' _ _ ihleft ihright => rw [chainText_sum, chainText_sum, ihleft, ihright]
  | receiver span inner name span' inner' name' arguments _ ih =>
      rw [chainText_call, chainText_call, ih]

theorem Regrouped.isConcatenation_iff {n m : Node} (h : Regrouped n m) :
    n.IsConcatenation ↔ m.IsConcatenation := by
  induction h with
  | refl n => rfl
  | symm _ ih => exact ih.symm
  | trans _ _ ih ih' => exact ih.trans ih'
  | rotate outer inner outer' inner' first second third =>
      exact iff_of_true (.sum ..) (.sum ..)
  | sum span span' _ _ _ _ => exact iff_of_true (.sum ..) (.sum ..)
  | receiver span inner name span' inner' name' arguments _ _ =>
      exact iff_of_true (.call ..) (.call ..)

end Node

/-! ## Turns -/

/-- The machine at work: what it has written and the parts that are
pending, the next one first. -/
structure Writing where
  out : String
  pending : List Part

namespace Writing

/-- One turn: the next part is written, or taken apart if it is a
concatenation. Nothing is left to do when nothing is pending. -/
def turn (b : Bindings) : Writing → Option Writing
  | ⟨_, []⟩ => none
  | ⟨out, .placeholder :: rest⟩ => some ⟨out ++ placeholder, rest⟩
  | ⟨out, .operand n :: rest⟩ => some ⟨out ++ n.operand b, rest⟩
  | ⟨out, .concat n :: rest⟩ =>
      some ((Part.split? n).elim ⟨out ++ n.operand b, rest⟩ fun parts => ⟨out, parts ++ rest⟩)

section

variable {b : Bindings} {n : Node} {out : String} {rest : List Part}

theorem turn_concat_of_some {parts : List Part} (h : Part.split? n = some parts) :
    turn b ⟨out, .concat n :: rest⟩ = some ⟨out, parts ++ rest⟩ := by
  simp only [turn, h, Option.elim_some]

theorem turn_concat_of_none (h : Part.split? n = none) :
    turn b ⟨out, .concat n :: rest⟩ = some ⟨out ++ n.operand b, rest⟩ := by
  simp only [turn, h, Option.elim_none]

end

/-- `w'` comes up in the run that `w` starts. -/
def Reaches (b : Bindings) : Writing → Writing → Prop :=
  Relation.ReflTransGen fun w w' => w.turn b = some w'

/-- The machine computes by turns: every run ends with nothing pending
and with the result written. -/
theorem exists_run (b : Bindings) (out : String) (ps : List Part) :
    Reaches b ⟨out, ps⟩ ⟨runParts b out ps, []⟩ := by
  fun_induction runParts b out ps with
  | case1 out => exact .refl
  | case2 out rest ih => exact .head rfl ih
  | case3 out n rest ih => exact .head rfl ih
  | case4 out n rest parts hsplit ih => exact .head (turn_concat_of_some hsplit) ih
  | case5 out n rest hsplit ih => exact .head (turn_concat_of_none hsplit) ih

/-- A call that is taken apart has a receiver. -/
theorem placeholder_not_mem_split {n : Node} {parts : List Part}
    (h : Part.split? n = some parts) : Part.placeholder ∉ parts := by
  have hn : n.IsConcatenation := Node.isSome_split?_iff.mp (Option.isSome_of_eq_some h)
  cases hn with
  | sum span left right =>
      obtain rfl := Option.some.inj h
      simp
  | call span inner name receiver arguments =>
      obtain rfl := Option.some.inj h
      simp

theorem placeholder_not_mem_turn {b : Bindings} {w w' : Writing} (h : w.turn b = some w')
    (hw : Part.placeholder ∉ w.pending) : Part.placeholder ∉ w'.pending := by
  obtain ⟨out, pending⟩ := w
  cases pending with
  | nil => cases h
  | cons part rest =>
      obtain ⟨hpart, hrest⟩ := not_or.mp (mt List.mem_cons.mpr hw)
      cases part with
      | placeholder => exact absurd rfl hpart
      | operand n =>
          obtain rfl := Option.some.inj h
          exact hrest
      | concat n =>
          cases hsplit : Part.split? n with
          | some parts =>
              rw [turn_concat_of_some hsplit] at h
              obtain rfl := Option.some.inj h
              exact fun hmem => (List.mem_append.mp hmem).elim
                (placeholder_not_mem_split hsplit) hrest
          | none =>
              rw [turn_concat_of_none hsplit] at h
              obtain rfl := Option.some.inj h
              exact hrest

theorem placeholder_not_mem_of_reaches {b : Bindings} {w w' : Writing} (h : Reaches b w w')
    (hw : Part.placeholder ∉ w.pending) : Part.placeholder ∉ w'.pending := by
  induction h with
  | refl => exact hw
  | tail _ hturn ih => exact placeholder_not_mem_turn hturn ih

end Writing

/-! ## Concatenations -/

/-- **The machine writes what a concatenation denotes.** From a sum or
a call of `concat` its run ends, with nothing pending and with the one
text written that the expression denotes, and that is how the
expression is resolved. No placeholder is ever pending in between, and
other groupings of the sums are resolved to the same text. -/
theorem Node.resolve_concatenation {n : Node} (h : n.IsConcatenation) (b : Bindings) :
    ∃ t, (∀ u, n.Concatenates b u ↔ u = t) ∧ n.resolve b = some t
      ∧ Writing.Reaches b ⟨"", [.concat n]⟩ ⟨t, []⟩
      ∧ (∀ w, Writing.Reaches b ⟨"", [.concat n]⟩ w → Part.placeholder ∉ w.pending)
      ∧ ∀ m, n.Regrouped m → m.resolve b = some t := by
  refine ⟨n.chainText b, fun u => ⟨fun hu => hu.eq_chainText, ?_⟩,
    resolve_of_isConcatenation h b, ?_, fun w hw => ?_, fun m hm => ?_⟩
  · rintro rfl
    exact concatenates_chainText b n
  · have hrun := Writing.exists_run b "" [.concat n]
    rwa [runParts_concat] at hrun
  · refine Writing.placeholder_not_mem_of_reaches hw fun hmem => ?_
    cases List.mem_singleton.mp hmem
  · rw [resolve_of_isConcatenation (hm.isConcatenation_iff.mp h), ← hm.chainText_eq b]

/-- `"/api" + v + "/users".concat(id)`, where `v` is known to be `/v1`,
in the other grouping as well. -/
theorem Node.resolve_concatenation_mixed :
    let api := literal ⟨0, 6⟩ (.string "/api")
    let version := identifier ⟨9, 10⟩ "v"
    let users := call ⟨13, 32⟩ (member ⟨13, 28⟩ (literal ⟨13, 21⟩ (.string "/users"))
      (identifier ⟨22, 28⟩ "concat") false) [identifier ⟨29, 31⟩ "id"]
    let b := ({} : Bindings).bind "v" "/v1"
    (binary ⟨0, 32⟩ "+" (binary ⟨0, 10⟩ "+" api version) users).resolve b
        = some "/api/v1/usersEXPR"
      ∧ (binary ⟨0, 32⟩ "+" api (binary ⟨9, 32⟩ "+" version users)).resolve b
        = some "/api/v1/usersEXPR" := by
  intro api version users b
  have hversion : b.get? "v" = some "/v1" := by simp [b, Bindings.bind, Bindings.get?]
  have hid : b.get? "id" = none := by simp [b, Bindings.bind, Bindings.get?]
  have hliteral (span : Span) (value : Literal) : ¬(literal span value).IsConcatenation := nofun
  have hname (span : Span) (name : String) : ¬(identifier span name).IsConcatenation := nofun
  have hunknown : (identifier ⟨29, 31⟩ "id").StandsFor b placeholder :=
    .unknown (fun _ _ => nofun) fun _ _ heq => by cases heq; exact hid
  have hleft : (binary ⟨0, 10⟩ "+" api version).Concatenates b "/api/v1" :=
    .sum _ (.operand (hliteral _ _) (.string ..)) (.operand (hname _ _) (.bound _ hversion))
  have hright : users.Concatenates b "/usersEXPR" :=
    .call _ _ _ (.operand (hliteral _ _) (.string ..)) (.cons hunknown .nil)
  obtain ⟨t, hdenotes, hresolve, -, -, hgrouping⟩ :=
    resolve_concatenation (.sum ⟨0, 32⟩ (binary ⟨0, 10⟩ "+" api version) users) b
  have ht : "/api/v1/usersEXPR" = t := (hdenotes _).mp (.sum _ hleft hright)
  rw [ht]
  exact ⟨hresolve, hgrouping _ (.rotate ..)⟩

end ScriptScout
