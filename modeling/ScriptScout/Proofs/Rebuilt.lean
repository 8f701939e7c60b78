import ScriptScout.Graphql.Plausible
import ScriptScout.Proofs.Compiled
import ScriptScout.Proofs.Text.Parts

/-!
# Which rebuilt documents pass for queries

The text that `rebuild?` gives for a compiled document goes through the
same test as any other text before it is reported. The two know nothing
of each other: one writes headers, the other reads a keyword, a name,
arguments and a brace.

Everything but the shape of the first header passes in every case:
names hold no brace, so the braces match (`balancedFrom_tailText`), and
the comment in place of the selection counts as a body
(`exists_body_eq`). The shape passes with one exception. Behind the
keyword of an operation the test takes arguments only after a name, so
an operation that has variables and no name is dropped
(`isOperationShape_header`).
-/

namespace ScriptScout.Graphql

/-! ## Characters of headers -/

theorem toNat_of_isNameChar {c : Char} (h : isNameChar c = true) :
    48 ≤ c.toNat ∧ c.toNat < 128 := by
  change (((c.isUpper || c.isLower) || c.isDigit) || c == '_') = true at h
  simp only [Bool.or_eq_true, beq_iff_eq] at h
  rcases h with ((hupper | hlower) | hdigit) | rfl
  · obtain ⟨hlow, hhigh⟩ := of_decide_eq_true hupper
    have hlow : 65 ≤ c.toNat := UInt32.le_iff_toNat_le.mp hlow
    have hhigh : c.toNat ≤ 90 := UInt32.le_iff_toNat_le.mp hhigh
    omega
  · obtain ⟨hlow, hhigh⟩ := Bool.and_eq_true_iff.mp hlower
    have hlow : 97 ≤ c.toNat := UInt32.le_iff_toNat_le.mp (of_decide_eq_true hlow)
    have hhigh : c.toNat ≤ 122 := UInt32.le_iff_toNat_le.mp (of_decide_eq_true hhigh)
    omega
  · have hrange : 48 ≤ c.toNat ∧ c.toNat ≤ 57 := Char.isDigit_iff_toNat.mp hdigit
    omega
  · decide

theorem isWord_of_isNameChar {c : Char} (h : isNameChar c = true) : Text.isWord c = true := by
  rw [Text.isWord, if_pos (toNat_of_isNameChar h).2]
  exact h

theorem isBlank_of_isNameChar {c : Char} (h : isNameChar c = true) : Text.isBlank c = false := by
  have := toNat_of_isNameChar h
  simp [Text.isBlank]
  omega

theorem Name.exists_cons (n : Name) :
    ∃ c cs, n.text.toList = c :: cs ∧ isNameChar c = true ∧ ∀ d ∈ cs, isNameChar d = true := by
  have hvalid := n.valid
  cases htext : n.text.toList with
  | nil => rw [htext] at hvalid; cases hvalid
  | cons c cs =>
      rw [htext, isName, Bool.and_eq_true, List.all_eq_true] at hvalid
      obtain ⟨hc, hcs⟩ := hvalid
      refine ⟨c, cs, rfl, ?_, hcs⟩
      simp only [isNameChar, Char.isAlphanum, Bool.or_eq_true] at hc ⊢
      exact hc.imp_left Or.inl

/-- The characters that a list of variables consists of. -/
def isArgumentChar (c : Char) : Bool := isNameChar c || "[]!$: ,".toList.contains c

theorem Name.all_isArgumentChar (n : Name) : n.text.toList.all isArgumentChar = true := by
  obtain ⟨c, cs, heq, hc, hcs⟩ := n.exists_cons
  rw [heq, List.all_eq_true]
  intro d hd
  have hname : isNameChar d = true := (List.mem_cons.mp hd).elim (fun h => h ▸ hc) (hcs d)
  rw [isArgumentChar, hname, Bool.true_or]

theorem TypeExpr.all_isArgumentChar (t : TypeExpr) :
    t.text.toList.all isArgumentChar = true := by
  induction t with
  | named name => exact name.all_isArgumentChar
  | list inner ih =>
      simp only [TypeExpr.text, String.toList_append, List.all_append, ih]
      decide
  | nonNull inner ih =>
      simp only [TypeExpr.text, String.toList_append, List.all_append, ih]
      decide

theorem Variable.all_isArgumentChar (v : Variable) :
    v.text.toList.all isArgumentChar = true := by
  simp only [Variable.text, String.toList_append, List.all_append, v.name.all_isArgumentChar,
    v.type.all_isArgumentChar]
  decide

theorem all_isArgumentChar_variables (vs : List Variable) :
    (String.intercalate ", " (vs.map Variable.text)).toList.all isArgumentChar = true := by
  induction vs with
  | nil => decide
  | cons v vs ih =>
      cases vs with
      | nil => simpa using v.all_isArgumentChar
      | cons w ws =>
          rw [List.map_cons, List.map_cons, String.intercalate_cons_cons, ← List.map_cons]
          simp only [String.toList_append, List.all_append, v.all_isArgumentChar, ih]
          decide

/-! ## Headers -/

/-- The definitions behind the first one. -/
def tailText (ds : List Definition) : List Char :=
  ds.flatMap fun d => "\n\n".toList ++ d.text.toList

theorem tailText_cons (d : Definition) (ds : List Definition) :
    tailText (d :: ds) = "\n\n".toList ++ d.text.toList ++ tailText ds := rfl

theorem Definition.toList_text (d : Definition) :
    d.text.toList = d.header.toList ++ rebuiltBody.toList := String.toList_append

/-- Texts that are joined: the first one, and before each further one
the separator. -/
theorem toList_intercalate_cons {α : Type} (sep : String) (text : α → String) (a : α)
    (as : List α) :
    (String.intercalate sep ((a :: as).map text)).toList =
      (text a).toList ++ as.flatMap fun b => sep.toList ++ (text b).toList := by
  induction as generalizing a with
  | nil => simp
  | cons b bs ih =>
      rw [List.map_cons, List.map_cons, String.intercalate_cons_cons, ← List.map_cons,
        String.toList_append, String.toList_append, ih b, List.flatMap_cons, List.append_assoc,
        List.append_assoc]

theorem toList_documentText (d : Definition) (ds : List Definition) :
    (documentText (d :: ds)).toList = d.text.toList ++ tailText ds :=
  toList_intercalate_cons "\n\n" Definition.text d ds

/-- Is the character a brace? -/
def isBrace (c : Char) : Bool := c == '\x7b' || c == '\x7d'

theorem isBrace_of_isArgumentChar {c : Char} (h : isArgumentChar c = true) :
    isBrace c = false := by
  cases hbrace : isBrace c with
  | false => rfl
  | true =>
      rcases Bool.or_eq_true_iff.mp hbrace with heq | heq
      · rw [beq_iff_eq.mp heq] at h
        exact absurd h (by decide)
      · rw [beq_iff_eq.mp heq] at h
        exact absurd h (by decide)

theorem all_not_isBrace {cs : List Char} (h : cs.all isArgumentChar = true) :
    cs.all (!isBrace ·) = true := by
  rw [List.all_eq_true] at h ⊢
  intro c hc
  rw [isBrace_of_isArgumentChar (h c hc), Bool.not_false]

theorem variablesText_braceless (vs : List Variable) :
    (variablesText vs).toList.all (!isBrace ·) = true := by
  unfold variablesText
  split
  · decide
  · simp only [String.toList_append, List.all_append,
      all_not_isBrace (all_isArgumentChar_variables vs)]
    decide

theorem Definition.header_braceless (d : Definition) :
    d.header.toList.all (!isBrace ·) = true := by
  cases d with
  | operation kind name declared =>
      have hkeyword : kind.keyword.toList.all (!isBrace ·) = true := by cases kind <;> decide
      have hname : (name.elim "" (" " ++ ·.text)).toList.all (!isBrace ·) = true := by
        cases name with
        | none => decide
        | some n =>
            simp only [Option.elim_some, String.toList_append, List.all_append,
              all_not_isBrace n.all_isArgumentChar]
            decide
      simp only [header, String.toList_append, List.all_append, hkeyword, hname,
        variablesText_braceless]
      decide
  | fragment name type =>
      simp only [header, String.toList_append, List.all_append,
        all_not_isBrace name.all_isArgumentChar, all_not_isBrace type.all_isArgumentChar]
      decide

/-! ## Braces -/

theorem balancedFrom_append {xs : List Char} (h : xs.all (!isBrace ·) = true) (depth : Nat)
    (ys : List Char) : balancedFrom depth (xs ++ ys) = balancedFrom depth ys := by
  induction xs with
  | nil => rfl
  | cons x xs ih =>
      simp only [List.all_cons, Bool.and_eq_true, isBrace, Bool.not_eq_true', Bool.or_eq_false_iff]
        at h
      obtain ⟨⟨hopen, hclose⟩, hxs⟩ := h
      have hstep : balancedFrom depth (x :: (xs ++ ys)) = balancedFrom depth (xs ++ ys) := by
        simp only [balancedFrom, hopen, hclose, Bool.false_eq_true, if_false]
      rw [List.cons_append, hstep, ih hxs]

theorem balancedFrom_definition (d : Definition) (rest : List Char) :
    balancedFrom 0 (d.text.toList ++ rest) = balancedFrom 0 rest := by
  rw [d.toList_text, List.append_assoc, balancedFrom_append d.header_braceless]
  rfl

theorem balancedFrom_tailText (ds : List Definition) : balancedFrom 0 (tailText ds) = true := by
  induction ds with
  | nil => rfl
  | cons d ds ih =>
      rw [tailText_cons, List.append_assoc, balancedFrom_append (by decide),
        balancedFrom_definition, ih]

/-! ## Bodies -/

/-- What stands between the braces of a rebuilt body. -/
def placeholderText : List Char := "\n  # [Reconstructed from AST]\n".toList

theorem toList_rebuiltBody :
    rebuiltBody.toList = ' ' :: '\x7b' :: (placeholderText ++ ['\x7d']) := by
  decide

/-- The body of a rebuilt document starts with the comment in place of
the first selection. -/
theorem exists_body_eq (d : Definition) (rest : List Char) :
    ∃ more, body (d.text.toList ++ rest) = '#' :: more := by
  have hinner : ((d.text.toList ++ rest).dropWhile (· != '\x7b')).drop 1
      = placeholderText ++ '\x7d' :: rest := by
    have hheader : ∀ c ∈ d.header.toList, (c != '\x7b') = true := by
      intro c hc
      have hbrace := List.all_eq_true.mp d.header_braceless c hc
      simp only [isBrace, Bool.not_eq_true', Bool.or_eq_false_iff] at hbrace
      rw [bne, hbrace.1, Bool.not_false]
    rw [d.toList_text, List.append_assoc, List.dropWhile_append_of_pos hheader,
      toList_rebuiltBody]
    simp
  obtain ⟨mid, after, hsplit⟩ := Text.exists_splitLast?_append '\x7d' placeholderText rest
  obtain ⟨more, hmore⟩ := Text.exists_trimEnd_cons (c := '#') (by decide)
    (" [Reconstructed from AST]\n".toList ++ mid)
  refine ⟨more, ?_⟩
  rw [body, hinner, hsplit, ← hmore]
  rfl

/-! ## Readers on written headers -/

theorem skipBlanks_name (n : Name) (rest : List Char) :
    skipBlanks (n.text.toList ++ rest) = n.text.toList ++ rest := by
  obtain ⟨c, cs, heq, hc, -⟩ := n.exists_cons
  rw [heq, List.cons_append, skipBlanks,
    List.dropWhile_cons_of_neg (by simp [isBlank_of_isNameChar hc])]

theorem afterBlanks?_name (n : Name) (rest : List Char) :
    afterBlanks? (' ' :: (n.text.toList ++ rest)) = some (n.text.toList ++ rest) :=
  congrArg some (skipBlanks_name n rest)

theorem afterName?_name (n : Name) {c : Char} (hc : Text.isWord c = false) (rest : List Char) :
    afterName? (n.text.toList ++ c :: rest) = some (c :: rest) := by
  obtain ⟨d, ds, heq, hd, hds⟩ := n.exists_cons
  have hrun : (ds ++ c :: rest).dropWhile Text.isWord = c :: rest := by
    rw [List.dropWhile_append_of_pos fun e he => isWord_of_isNameChar (hds e he),
      List.dropWhile_cons_of_neg (by simp [hc])]
  rw [heq, List.cons_append, afterName?, if_pos (isWord_of_isNameChar hd), hrun]

theorem afterArguments?_variables (vs : List Variable) (rest : List Char) :
    afterArguments?
        ('(' :: ((String.intercalate ", " (vs.map Variable.text)).toList ++ ')' :: rest))
      = some rest := by
  have hplain : ∀ c ∈ (String.intercalate ", " (vs.map Variable.text)).toList,
      (c == ')') = false := by
    intro c hc
    have hchar := List.all_eq_true.mp (all_isArgumentChar_variables vs) c hc
    refine beq_eq_false_iff_ne.mpr fun heq => ?_
    rw [heq] at hchar
    exact absurd hchar (by decide)
  rw [afterArguments?, Text.splitFirst?_append hplain]
  rfl

/-! ## Shapes -/

/-- An operation with variables and no name. -/
def Definition.isBareWithVariables : Definition → Bool
  | operation _ none (_ :: _) => true
  | _ => false

theorem isOperationShape_keyword (kind : OperationKind) (rest : List Char) :
    isOperationShape (kind.keyword.toList ++ rest) =
      ((afterChar? '\x7b' (skipBlanks rest)).isSome
        || (do
          let rest ← afterName? (skipBlanks rest)
          let rest ← afterArguments? (skipBlanks rest)
          afterChar? '\x7b' (skipBlanks rest)).isSome) := by
  cases kind <;> rfl

theorem toList_variablesText_cons (v : Variable) (vs : List Variable) (rest : List Char) :
    (variablesText (v :: vs)).toList ++ rest =
      '(' :: ((String.intercalate ", " ((v :: vs).map Variable.text)).toList ++ ')' :: rest) := by
  rw [variablesText, if_neg (by simp), String.toList_append, String.toList_append,
    List.append_assoc, List.append_assoc]
  rfl

/-- The arguments that may stand behind a name, and the brace behind
them. -/
theorem afterArguments?_brace (declared : List Variable) (rest : List Char) :
    ∃ c cs, (variablesText declared).toList ++ (rebuiltBody.toList ++ rest) = c :: cs
      ∧ Text.isWord c = false
      ∧ ((afterArguments? (skipBlanks (c :: cs))).bind
        fun rest => afterChar? '\x7b' (skipBlanks rest)).isSome = true := by
  cases declared with
  | nil => exact ⟨' ', _, rfl, rfl, rfl⟩
  | cons v vs =>
      rw [toList_variablesText_cons]
      refine ⟨'(', _, rfl, rfl, ?_⟩
      rw [show ∀ cs, skipBlanks ('(' :: cs) = '(' :: cs from fun _ => rfl,
        afterArguments?_variables]
      rfl

theorem toList_text_operation (kind : OperationKind) (name : Option Name)
    (declared : List Variable) (rest : List Char) :
    (Definition.operation kind name declared).text.toList ++ rest =
      kind.keyword.toList ++ ((name.elim "" (" " ++ ·.text)).toList
        ++ ((variablesText declared).toList ++ (rebuiltBody.toList ++ rest))) := by
  simp only [Definition.toList_text, Definition.header, String.toList_append, List.append_assoc]

/-- Behind its keyword an operation needs a name for its arguments to be
read. -/
theorem isOperationShape_header (kind : OperationKind) (name : Option Name)
    (declared : List Variable) (rest : List Char) :
    isOperationShape ((Definition.operation kind name declared).text.toList ++ rest)
      = !(Definition.operation kind name declared).isBareWithVariables := by
  rw [toList_text_operation, isOperationShape_keyword]
  cases name with
  | none =>
      cases declared with
      | nil => rfl
      | cons v vs =>
          rw [toList_variablesText_cons]
          rfl
  | some n =>
      obtain ⟨c, cs, heq, hc, hbrace⟩ := afterArguments?_brace declared rest
      have hblank : skipBlanks ((" " ++ n.text).toList ++ (c :: cs))
          = n.text.toList ++ c :: cs := by
        rw [String.toList_append]
        exact skipBlanks_name n (c :: cs)
      rw [Option.elim_some, heq, hblank, afterName?_name n hc]
      simp only [Option.bind_eq_bind, Option.bind_some, hbrace, Bool.or_true,
        Definition.isBareWithVariables, Bool.not_false]

theorem toList_text_fragment (name type : Name) (rest : List Char) :
    (Definition.fragment name type).text.toList ++ rest =
      "fragment ".toList ++ (name.text.toList ++ ' ' :: ("on ".toList
        ++ (type.text.toList ++ ' ' :: '\x7b' :: (placeholderText ++ '\x7d' :: rest)))) := by
  rw [Definition.toList_text, Definition.header, toList_rebuiltBody]
  simp only [String.toList_append, List.append_assoc, List.cons_append, List.nil_append]
  rfl

theorem isFragmentShape_header (name type : Name) (rest : List Char) :
    isFragmentShape ((Definition.fragment name type).text.toList ++ rest) = true := by
  have hkeyword (cs : List Char) :
      afterWord? fragmentKeyword (skipBlanks ("fragment ".toList ++ cs)) = some (' ' :: cs) := rfl
  have hblank (cs : List Char) :
      afterBlanks? (' ' :: ("on ".toList ++ cs)) = some ("on ".toList ++ cs) := rfl
  have hon (cs : List Char) : afterWord? "on" ("on ".toList ++ cs) = some (' ' :: cs) := rfl
  have hspace : Text.isWord ' ' = false := rfl
  rw [toList_text_fragment, isFragmentShape]
  simp only [Option.bind_eq_bind, Option.bind_some, hkeyword, hblank, hon, afterBlanks?_name,
    afterName?_name _ hspace]
  rfl

/-! ## Rebuilt documents -/

theorem Definition.exists_text_cons (d : Definition) (rest : List Char) :
    ∃ c cs, d.text.toList ++ rest = c :: cs ∧ Text.isBlank c = false := by
  cases d with
  | operation kind name declared =>
      rw [toList_text_operation]
      cases kind
      · exact ⟨'q', _, rfl, rfl⟩
      · exact ⟨'m', _, rfl, rfl⟩
      · exact ⟨'s', _, rfl, rfl⟩
  | fragment name type =>
      rw [toList_text_fragment]
      exact ⟨'f', _, rfl, rfl⟩

theorem Definition.exists_text_append (d : Definition) :
    ∃ cs, d.text.toList = cs ++ ['\x7d'] := by
  refine ⟨d.header.toList ++ ' ' :: '\x7b' :: placeholderText, ?_⟩
  rw [d.toList_text, toList_rebuiltBody, List.append_assoc]
  rfl

/-- A document ends with the brace of its last definition. -/
theorem exists_document_append (d : Definition) (ds : List Definition) :
    ∃ cs, d.text.toList ++ tailText ds = cs ++ ['\x7d'] := by
  rcases ds.eq_nil_or_concat with rfl | ⟨es, e, rfl⟩
  · obtain ⟨cs, hcs⟩ := d.exists_text_append
    exact ⟨cs, by rw [hcs]; exact List.append_nil _⟩
  · obtain ⟨cs, hcs⟩ := e.exists_text_append
    refine ⟨d.text.toList ++ (tailText es ++ ("\n\n".toList ++ cs)), ?_⟩
    have hlast : tailText (es ++ [e]) = tailText es ++ ("\n\n".toList ++ e.text.toList) := by
      rw [tailText, List.flatMap_append, List.flatMap_singleton, ← tailText]
    rw [List.concat_eq_append, hlast, hcs]
    simp only [List.append_assoc]

theorem trim_documentText (d : Definition) (ds : List Definition) :
    Text.trim (documentText (d :: ds)).toList = d.text.toList ++ tailText ds := by
  obtain ⟨c, cs, hcons, hc⟩ := d.exists_text_cons (tailText ds)
  obtain ⟨init, hinit⟩ := exists_document_append d ds
  have hbrace : Text.isBlank '\x7d' = false := rfl
  rw [toList_documentText, hcons]
  exact Text.trim_eq_self hc hbrace (hcons ▸ hinit)

theorem isBalanced_rebuilt (d : Definition) (ds : List Definition) :
    isBalanced (d.text.toList ++ tailText ds) = true := by
  rw [isBalanced, balancedFrom_definition, balancedFrom_tailText]

theorem length_rebuilt (d : Definition) (rest : List Char) :
    15 ≤ (d.text.toList ++ rest).length := by
  have hbody : 15 ≤ rebuiltBody.toList.length := by decide
  rw [d.toList_text, List.length_append, List.length_append]
  omega

theorem hasBraces_rebuilt (d : Definition) (rest : List Char) :
    hasBraces (d.text.toList ++ rest) = true := by
  have hbody : ∀ c ∈ rebuiltBody.toList, c ∈ d.text.toList ++ rest := fun c hc => by
    rw [d.toList_text]
    exact List.mem_append_left _ (List.mem_append_right _ hc)
  rw [hasBraces, Bool.and_eq_true, List.contains_iff_mem, List.contains_iff_mem]
  exact ⟨hbody _ (by decide), hbody _ (by decide)⟩

/-- Of all that is asked of an operation only the shape can fail. -/
theorem isPlausibleOperation_rebuilt (h : HeuristicSettings) (d : Definition)
    (ds : List Definition) :
    isPlausibleOperation h (d.text.toList ++ tailText ds)
      = isOperationShape (d.text.toList ++ tailText ds) := by
  obtain ⟨more, hbody⟩ := exists_body_eq d (tailText ds)
  simp only [isPlausibleOperation, hasBraces_rebuilt, isBalanced_rebuilt, hbody]
  simp

theorem afterAnyWord?_keyword (kind : OperationKind) (rest : List Char) :
    afterAnyWord? operationKeywords (kind.keyword.toList ++ rest) = some rest := by
  cases kind <;> rfl

/-- The test of a text that starts with the keyword of an operation is
that of an operation. -/
theorem isPlausible_operation {kind : OperationKind} {name : Option Name}
    {declared : List Variable} (ds : List Definition) :
    isPlausible {} (documentText (.operation kind name declared :: ds))
      = !(Definition.operation kind name declared).isBareWithVariables := by
  have hlength := length_rebuilt (.operation kind name declared) (tailText ds)
  have hkeyword : (afterAnyWord? operationKeywords
      ((Definition.operation kind name declared).text.toList ++ tailText ds)).isSome = true := by
    rw [toList_text_operation, afterAnyWord?_keyword]
    rfl
  simp only [isPlausible, trim_documentText, hlength, decide_true, Bool.true_and, hkeyword,
    if_true, isPlausibleOperation_rebuilt, isOperationShape_header]

theorem isPlausible_fragment (name type : Name) (ds : List Definition) :
    isPlausible {} (documentText (.fragment name type :: ds)) = true := by
  have hlength := length_rebuilt (.fragment name type) (tailText ds)
  have hkeyword : (afterAnyWord? operationKeywords
        ((Definition.fragment name type).text.toList ++ tailText ds)).isSome = false
      ∧ (afterWord? fragmentKeyword
        ((Definition.fragment name type).text.toList ++ tailText ds)).isSome = true := by
    rw [toList_text_fragment]
    exact ⟨rfl, rfl⟩
  simp only [isPlausible, trim_documentText, hlength, decide_true, hkeyword.1, hkeyword.2,
    Bool.false_eq_true, if_false, if_true, isFragmentShape_header, isBalanced_rebuilt,
    Bool.and_self]

/-- **A rebuilt document passes for a query** unless its first
definition is an operation that has variables and no name. The text is
there in every case. -/
theorem rebuilt_isPlausible_iff {j : Json} {d : Definition} {ds : List Definition}
    (h : IsDocumentOf j (d :: ds)) :
    ∃ t, rebuild? j = some t ∧ (isPlausible {} t = true ↔ d.isBareWithVariables = false) := by
  refine ⟨_, rebuild?_of_isDocumentOf h, ?_⟩
  cases d with
  | operation kind name declared => rw [isPlausible_operation, Bool.not_eq_true']
  | fragment name type => exact iff_of_true (isPlausible_fragment name type ds) rfl

/-- A compiled name. -/
def nameJson (name : String) : Json :=
  .object [("kind", .string "Name"), ("value", .string name)]

/-- The compiled form of a type that is a name. -/
def namedTypeJson (name : String) : Json :=
  .object [("kind", .string "NamedType"), ("name", nameJson name)]

/-- `query Feed($ids: [ID]!)` and a fragment behind it. -/
theorem rebuilt_isPlausible_feed :
    let ids : Json := .object [
      ("type", .object [("kind", .string "NonNullType"),
        ("type", .object [("kind", .string "ListType"), ("type", namedTypeJson "ID")])]),
      ("variable", .object [("kind", .string "Variable"), ("name", nameJson "ids")])]
    let feed : Json := .object [("kind", .string "OperationDefinition"), ("name", nameJson "Feed"),
      ("operation", .string "query"), ("selectionSet", .object []),
      ("variableDefinitions", .array [ids])]
    let parts : Json := .object [("kind", .string "FragmentDefinition"),
      ("name", nameJson "Parts"), ("typeCondition", namedTypeJson "User")]
    let document : Json :=
      .object [("definitions", .array [feed, parts]), ("kind", .string "Document")]
    IsDocumentOf document
        [.operation .query (some ⟨"Feed", rfl⟩)
          [⟨⟨"ids", rfl⟩, .nonNull (.list (.named ⟨"ID", rfl⟩))⟩],
        .fragment ⟨"Parts", rfl⟩ ⟨"User", rfl⟩]
      ∧ ∃ t, rebuild? document = some t ∧ isPlausible {} t = true := by
  intro ids feed parts document
  have hids : IsVariableOf ids ⟨⟨"ids", rfl⟩, .nonNull (.list (.named ⟨"ID", rfl⟩))⟩ :=
    ⟨⟨_, rfl, _, rfl, rfl⟩, _, rfl, .nonNull rfl rfl (.list rfl rfl (.named rfl ⟨_, rfl, rfl⟩))⟩
  have hfeed : IsDefinitionOf feed (.operation .query (some ⟨"Feed", rfl⟩) _) :=
    .operation rfl rfl ⟨_, rfl, rfl⟩ (.listed rfl (.cons hids .nil)) ⟨_, rfl, rfl⟩
  have hparts : IsDefinitionOf parts (.fragment ⟨"Parts", rfl⟩ ⟨"User", rfl⟩) :=
    .fragment rfl ⟨_, rfl, rfl⟩ ⟨_, rfl, _, rfl, rfl⟩
  have hdocument : IsDocumentOf document _ := ⟨rfl, _, rfl, .cons hfeed (.cons hparts .nil)⟩
  obtain ⟨t, ht, hiff⟩ := rebuilt_isPlausible_iff hdocument
  exact ⟨hdocument, t, ht, hiff.mpr rfl⟩

/-- `query($id: ID)` is rebuilt and then dropped. -/
theorem rebuilt_not_isPlausible_bare :
    let id : Json := .object [("type", namedTypeJson "ID"),
      ("variable", .object [("kind", .string "Variable"), ("name", nameJson "id")])]
    let lookup : Json := .object [("kind", .string "OperationDefinition"),
      ("operation", .string "query"), ("selectionSet", .object []),
      ("variableDefinitions", .array [id])]
    let document : Json := .object [("definitions", .array [lookup]), ("kind", .string "Document")]
    IsDocumentOf document [.operation .query none [⟨⟨"id", rfl⟩, .named ⟨"ID", rfl⟩⟩]]
      ∧ rebuild? document = some "query($id: ID) \x7b\n  # [Reconstructed from AST]\n\x7d"
      ∧ isPlausible {} "query($id: ID) \x7b\n  # [Reconstructed from AST]\n\x7d" = false := by
  intro id lookup document
  have hid : IsVariableOf id ⟨⟨"id", rfl⟩, .named ⟨"ID", rfl⟩⟩ :=
    ⟨⟨_, rfl, _, rfl, rfl⟩, _, rfl, .named rfl ⟨_, rfl, rfl⟩⟩
  have hname : Lacks lookup "name" := fun _ h => nomatch h
  have hlookup : IsDefinitionOf lookup (.operation .query none _) :=
    .operation rfl rfl hname (.listed rfl (.cons hid .nil)) ⟨_, rfl, rfl⟩
  exact ⟨⟨rfl, _, rfl, .cons hlookup .nil⟩, rfl, rfl⟩

end ScriptScout.Graphql
