import ScriptScout.Resolve

/-!
# What a concatenation denotes

The machine that reads a concatenation keeps a stack of parts, so that
its depth costs no recursion. `Node.chainText` is what it computes,
said by recursion over the expression, and `runParts_eq` joins the two
for every stack and everything written before.

The operands of a sum are not resolved as an expression by itself is.
What an operand contributes is its own value in all shapes but one: a
template has a value, but stands as the placeholder inside a sum
(`chainText_eq_addend`).
-/

namespace ScriptScout

namespace Node

/-- The text of an expression inside a concatenation: of a sum both
sides, of a call of `concat` its receiver and its arguments, and of
anything else an operand. -/
def chainText (b : Bindings) : Node → String
  | n@(binary _ operator left right) =>
      if operator == "+" then left.chainText b ++ right.chainText b else n.operand b
  | n@(call _ callee@(member _ receiver _ _) arguments) =>
      if callee.memberName? == some "concat" then
        receiver.chainText b ++ String.join (arguments.map (operand b))
      else n.operand b
  | n => n.operand b

end Node

/-! ## The machine -/

namespace Part

/-- The text that a part stands for. -/
def text (b : Bindings) : Part → String
  | concat n => n.chainText b
  | operand n => n.operand b
  | placeholder => ScriptScout.placeholder

/-- The parts of a concatenation stand for the text of the whole. -/
theorem join_text_split {b : Bindings} {n : Node} {ps : List Part} (h : split? n = some ps) :
    String.join (ps.map (text b)) = n.chainText b := by
  cases n with
  | binary span operator left right =>
      simp only [split?] at h
      split at h
      · next hplus =>
          cases h
          simp [text, Node.chainText, hplus]
      · cases h
  | call span callee arguments =>
      simp only [split?] at h
      split at h
      · next hconcat =>
          cases callee with
          | member _ receiver name computed =>
              cases h
              simp [text, Node.chainText, hconcat, Function.comp_def]
          | _ => cases hconcat
      · cases h
  | _ => cases h

theorem chainText_of_split_none {b : Bindings} {n : Node} (h : split? n = none) :
    n.chainText b = n.operand b := by
  cases n with
  | binary span operator left right =>
      simp only [split?] at h
      split at h
      · cases h
      · next hplus => simp only [Node.chainText, hplus, Bool.false_eq_true, if_false]
  | call span callee arguments =>
      cases callee with
      | member _ receiver name computed =>
          simp only [split?] at h
          split at h
          · cases h
          · next hconcat => simp only [Node.chainText, hconcat, Bool.false_eq_true, if_false]
      | _ => rfl
  | _ => rfl

end Part

/-- The machine writes what the parts on its stack stand for, behind
what has been written already. -/
theorem runParts_eq (b : Bindings) (out : String) (ps : List Part) :
    runParts b out ps = out ++ String.join (ps.map (Part.text b)) := by
  fun_induction runParts b out ps with
  | case1 out => simp
  | case2 out rest ih => rw [ih, List.map_cons, String.join_cons, String.append_assoc]; rfl
  | case3 out n rest ih => rw [ih, List.map_cons, String.join_cons, String.append_assoc]; rfl
  | case4 out n rest ps hsplit ih =>
      rw [ih, List.map_append, String.join_append, Part.join_text_split hsplit, List.map_cons,
        String.join_cons]
      rfl
  | case5 out n rest hsplit ih =>
      rw [ih, List.map_cons, String.join_cons, String.append_assoc,
        ← Part.chainText_of_split_none hsplit]
      rfl

namespace Node

theorem runParts_concat (b : Bindings) (n : Node) :
    runParts b "" [.concat n] = n.chainText b := by
  rw [runParts_eq]
  simp [Part.text]

theorem resolve_plus (b : Bindings) (span : Span) (left right : Node) :
    (binary span "+" left right).resolve b = some (left.chainText b ++ right.chainText b) := by
  have hchain := runParts_concat b (binary span "+" left right)
  exact congrArg some hchain

/-! ## Operands of a sum -/

/-- Is the node a template? -/
def isTemplate : Node → Bool
  | template .. => true
  | _ => false

/-- What an operand contributes to a sum: its value, or the placeholder
if it has none. A template counts as having none. -/
def addend (b : Bindings) (n : Node) : String :=
  if n.isTemplate then placeholder else (n.resolve b).getD placeholder

/-- A call of `concat` and a sum are taken apart by the machine whether
they stand alone or in a sum; all other shapes are operands. -/
theorem chainText_eq_addend (b : Bindings) (n : Node) : n.chainText b = n.addend b := by
  cases n with
  | literal span value => cases value <;> rfl
  | binary span operator left right =>
      simp only [addend, isTemplate, resolve, runParts_concat, Bool.false_eq_true, if_false]
      by_cases hplus : (operator == "+") = true
      · rw [if_pos hplus]
        rfl
      · have hsplit : Part.split? (binary span operator left right) = none := if_neg hplus
        rw [if_neg hplus, Part.chainText_of_split_none hsplit]
        rfl
  | call span callee arguments =>
      simp only [addend, isTemplate, resolve, runParts_concat, Bool.false_eq_true, if_false]
      by_cases hconcat : (call span callee arguments).isConcatCall = true
      · rw [if_pos hconcat]
        rfl
      · have hsplit : Part.split? (call span callee arguments) = none := if_neg hconcat
        rw [if_neg hconcat, Part.chainText_of_split_none hsplit]
        rfl
  | _ => rfl

/-- **A sum denotes what its operands contribute, one behind the
other,** however deep the operands are and whatever they consist of. An
operand contributes its own value or, if it has none, the placeholder;
only a template contributes the placeholder although it has a value. -/
theorem resolve_sum (b : Bindings) (span : Span) (left right : Node) :
    (binary span "+" left right).resolve b = some (left.addend b ++ right.addend b) := by
  rw [resolve_plus, chainText_eq_addend, chainText_eq_addend]

/-- A template before a path: by itself it denotes `/api`, and in the
sum it is lost. -/
theorem resolve_sum_template :
    let path := template ⟨0, 6⟩ [⟨⟨1, 5⟩, "/api"⟩] []
    let rest := literal ⟨9, 17⟩ (.string "/users")
    (binary ⟨0, 17⟩ "+" path rest).resolve {} = some "EXPR/users"
      ∧ (path.resolve {}).getD placeholder ++ (rest.resolve {}).getD placeholder
        = "/api/users" := by
  refine ⟨?_, rfl⟩
  rw [resolve_plus]
  rfl

end Node

end ScriptScout
