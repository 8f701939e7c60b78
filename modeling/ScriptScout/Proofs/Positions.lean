import Mathlib.Data.List.Basic
import Mathlib.Data.List.Induction
import ScriptScout.Proofs.Distinct
import ScriptScout.Proofs.Stateless
import ScriptScout.Proofs.Text.Bytes

/-!
# Positions count newlines

Every finding carries a line and a column that come out of a table of
newline offsets by bisection. Here they are measured against counting.
`Position.counted` takes the bytes of the text before an offset: there
is one line more than there are newlines among them, and one column
more than there are bytes behind the last newline.

The table is made from characters and the count from bytes. They meet
in `newlinesFrom_eq`: no byte of another character is a newline, so the
table lists the indices of the newline byte in the UTF-8 form. An
offset cuts that list where the bisection finds it (`bisect_append`),
and the left part is the table of the bytes before the offset.
-/

namespace ScriptScout

/-! ## The byte of a newline -/

/-- The byte of a newline. -/
def newlineByte : UInt8 := 10

theorem utf8EncodeChar_newline : String.utf8EncodeChar '\n' = [newlineByte] := by decide

/-- All bytes of a character beyond the first 128 are 128 or more, so
only the newline itself has the byte of a newline. -/
theorem newlineByte_not_mem {c : Char} (hc : c ≠ '\n') :
    newlineByte ∉ String.utf8EncodeChar c := by
  have hval : c.val.toNat ≠ 10 := fun h => hc (Char.ext (UInt32.toNat_inj.mp h))
  have hne {v : Nat} (hv : v % 256 ≠ 10) : newlineByte ≠ UInt8.ofNat v := fun h => by
    have hmod := congrArg UInt8.toNat h
    rw [UInt8.toNat_ofNat'] at hmod
    exact hv hmod.symm
  fun_cases String.utf8EncodeChar c with
  | case1 v hv =>
      simp only [List.mem_cons, List.not_mem_nil, or_false]
      exact hne (by omega)
  | case2 v _ hv =>
      simp only [List.mem_cons, List.not_mem_nil, or_false, not_or]
      exact ⟨hne (by omega), hne (by omega)⟩
  | case3 v _ _ hv =>
      simp only [List.mem_cons, List.not_mem_nil, or_false, not_or]
      exact ⟨hne (by omega), hne (by omega), hne (by omega)⟩
  | case4 v _ _ hv =>
      simp only [List.mem_cons, List.not_mem_nil, or_false, not_or]
      exact ⟨hne (by omega), hne (by omega), hne (by omega), hne (by omega)⟩

/-! ## The table -/

namespace LineTable

/-- The table of a text lists the indices of the newlines among its
bytes. -/
theorem newlinesFrom_eq (start : Nat) (cs : List Char) :
    newlinesFrom start cs = (cs.flatMap String.utf8EncodeChar).idxsOf newlineByte start := by
  induction cs generalizing start with
  | nil => rfl
  | cons c cs ih =>
      rw [newlinesFrom, ih, List.flatMap_cons, List.idxsOf_append,
        String.length_utf8EncodeChar, Nat.add_comm]
      split
      · next h =>
          subst h
          rw [utf8EncodeChar_newline]
          rfl
      · next h =>
          have hnone : (String.utf8EncodeChar c).idxsOf newlineByte start = [] := by
            rw [List.idxsOf_eq_nil_iff]
            intro b hb
            exact beq_eq_false_iff_ne.mpr fun heq => newlineByte_not_mem h (heq ▸ hb)
          rw [hnone, List.nil_append]

theorem bisect_eq {offsets : Array Nat} {bound k : Nat}
    (hbelow : ∀ i < k, offsets.getD i 0 < bound)
    (habove : ∀ i, k ≤ i → i < offsets.size → bound ≤ offsets.getD i 0)
    {lo hi : Nat} (hlo : lo ≤ k) (hhi : k ≤ hi) (hsize : hi ≤ offsets.size) :
    bisect offsets bound lo hi = k := by
  fun_induction bisect offsets bound lo hi with
  | case1 lo hi hlt mid hmid ih =>
      have : ¬k ≤ mid := fun hk => absurd (habove mid hk (by omega)) (Nat.not_le_of_lt hmid)
      exact ih (by omega) hhi hsize
  | case2 lo hi hlt mid hmid ih =>
      have : ¬mid < k := fun hk => hmid (hbelow mid hk)
      exact ih hlo (by omega) (by omega)
  | case3 lo hi hlt => omega

/-- In a table that an offset cuts in two the bisection finds the
cut. -/
theorem bisect_append {before after : List Nat} {bound : Nat}
    (hbefore : ∀ x ∈ before, x < bound) (hafter : ∀ x ∈ after, bound ≤ x) :
    bisect (before ++ after).toArray bound 0 (before ++ after).toArray.size = before.length := by
  refine bisect_eq (fun i hi => ?_) (fun i hi hsize => ?_) (Nat.zero_le _) (by simp) (Nat.le_refl _)
  · have hget : (before ++ after).toArray.getD i 0 = before[i] := by
      simp [Array.getD_eq_getD_getElem?, List.getElem?_append_left hi, hi]
    exact hget ▸ hbefore _ (List.getElem_mem hi)
  · have hlt : i - before.length < after.length := by simp at hsize; omega
    have hget : (before ++ after).toArray.getD i 0 = after[i - before.length] := by
      simp [Array.getD_eq_getD_getElem?, List.getElem?_append_right hi, hlt]
    exact hget ▸ hafter _ (List.getElem_mem hlt)

end LineTable

/-! ## Counting -/

namespace Position

/-- The position behind some bytes: one line more than there are
newlines, and one column more than there are bytes behind the last of
them. -/
def behind (bytes : List UInt8) : Position where
  line := 1 + bytes.count newlineByte
  column := 1 + (bytes.reverse.takeWhile (· != newlineByte)).length

/-- The position of an offset, by counting; offsets beyond the end count
as the end. -/
def counted (source : String) (offset : Nat) : Position :=
  behind ((Text.bytes source).take (min offset (Text.bytes source).length))

end Position

/-- The finding carries the position of the start of its span in the
text, by counting; lines and columns start at one. -/
def Finding.IsPlacedIn {κ : Type} (source : String) (a : Finding κ) : Prop :=
  a.position = Position.counted source a.span.start
    ∧ 1 ≤ a.position.line ∧ 1 ≤ a.position.column

/-- Up to the start of the last line and from there to the end, the
bytes are all there. -/
theorem lastLine_add_length (bytes : List UInt8) :
    ((bytes.idxsOf newlineByte).getLast?.elim 0 (· + 1))
      + (bytes.reverse.takeWhile (· != newlineByte)).length = bytes.length := by
  induction bytes using List.reverseRecOn with
  | nil => rfl
  | append_singleton bytes b ih =>
      rw [List.idxsOf_append, List.reverse_append, List.length_append]
      by_cases hb : b = newlineByte
      · subst hb
        simp
      · simp [hb]
        omega

namespace LineTable

/-- An offset cuts the table into that of the bytes before it and that
of the bytes behind it. -/
theorem newlines_eq_append (source : String) {cut : Nat} (h : cut ≤ (Text.bytes source).length) :
    (ofText source).newlines =
      (((Text.bytes source).take cut).idxsOf newlineByte
        ++ ((Text.bytes source).drop cut).idxsOf newlineByte cut).toArray := by
  have hcut : cut = 0 + ((Text.bytes source).take cut).length := by
    rw [List.length_take]
    omega
  have htable : newlinesFrom 0 source.toList = (Text.bytes source).idxsOf newlineByte := by
    rw [newlinesFrom_eq, Text.bytes_eq_flatMap]
  conv_rhs => enter [1, 2]; rw [hcut]
  rw [← List.idxsOf_append, ← hcut, List.take_append_drop, ← htable]
  rfl

/-- The line of an offset starts behind the last newline before it. -/
theorem lineStart_append (before after : List Nat) :
    (if before.length = 0 then 0 else (before ++ after).toArray.getD (before.length - 1) 0 + 1)
      = before.getLast?.elim 0 (· + 1) := by
  cases hb : before.getLast? with
  | none =>
      rw [List.getLast?_eq_none_iff] at hb
      subst hb
      rfl
  | some x =>
      have hne : before.length ≠ 0 := by
        rintro h0
        rw [List.length_eq_zero_iff] at h0
        subst h0
        cases hb
      have hlt : before.length - 1 < before.length := by omega
      rw [List.getLast?_eq_getElem?] at hb
      simp [Array.getD_eq_getD_getElem?, List.getElem?_append_left hlt, hb, hne]

/-- What a table that an offset cuts in two says of the offset. -/
theorem position_of_append {t : LineTable} {offset : Nat} {before after : List Nat}
    (ht : t.newlines = (before ++ after).toArray)
    (hbefore : ∀ x ∈ before, x < min offset t.size)
    (hafter : ∀ x ∈ after, min offset t.size ≤ x) :
    t.position offset =
      ⟨before.length + 1, min offset t.size - before.getLast?.elim 0 (· + 1) + 1⟩ := by
  unfold position
  simp only [ht, bisect_append hbefore hafter, lineStart_append]

theorem size_ofText (source : String) : (ofText source).size = (Text.bytes source).length := by
  rw [Text.bytes_eq_flatMap, ← Text.byteLength_eq_length]
  rfl

/-- The position of an offset, by the newlines among the bytes before
it. -/
theorem position_eq_cut {source : String} {offset cut : Nat}
    (hcut : min offset (Text.bytes source).length = cut) :
    (ofText source).position offset =
      ⟨(((Text.bytes source).take cut).idxsOf newlineByte).length + 1,
        cut - (((Text.bytes source).take cut).idxsOf newlineByte).getLast?.elim 0 (· + 1) + 1⟩ := by
  have hle : cut ≤ (Text.bytes source).length := by omega
  have hlength : ((Text.bytes source).take cut).length = cut := List.length_take_of_le hle
  rw [position_of_append (newlines_eq_append source hle), size_ofText, hcut]
  · intro x hx
    have := List.lt_add_of_mem_idxsOf x hx
    rw [size_ofText]
    omega
  · intro x hx
    have := List.ge_of_mem_idxsOf x hx
    rw [size_ofText]
    omega

/-- Looking a position up is counting newlines. -/
theorem position_eq_counted (source : String) (offset : Nat) :
    (ofText source).position offset = Position.counted source offset := by
  rw [position_eq_cut rfl, Position.counted, Position.behind, List.length_idxsOf,
    Position.mk.injEq]
  have hlast := lastLine_add_length
    ((Text.bytes source).take (min offset (Text.bytes source).length))
  rw [List.length_take_of_le (Nat.min_le_right ..)] at hlast
  omega

-- A character of two bytes, and the offset right behind a newline.
example : Position.counted "é\nb" 3 = ⟨2, 1⟩ := by decide

end LineTable

/-! ## Every finding stands at the start of its span -/

/-- The finding carries the position of the start of its span. -/
def Scene.Places {κ : Type} (scene : Scene) (a : Finding κ) : Prop :=
  a.position = scene.position a.span.start

theorem HttpCall.step_places (scene : Scene) (n : Node) (s : State) :
    ∀ a ∈ (HttpCall.step scene n s).2, scene.Places a.toFinding := by
  intro a ha
  unfold step at ha
  split at ha
  · obtain ⟨⟨kind, d⟩, -, rfl⟩ := Option.map_eq_some_iff.mp (Option.mem_toList.mp ha)
    exact rfl
  · cases ha

theorem Sink.step_places (scene : Scene) (n : Node) (s : State) :
    ∀ a ∈ (Sink.step scene n s).2, scene.Places a := by
  intro a ha
  unfold step at ha
  split at ha
  · have hsink := Option.mem_toList.mp ha
    simp only [recognize?, Option.bind_eq_bind, Option.bind_eq_some_iff, Option.pure_def,
      Option.some.injEq] at hsink
    obtain ⟨kind, -, -, -, rfl⟩ := hsink
    exact rfl
  · cases ha

theorem GraphqlText.report_places (scene : Scene) (span : Span) (value : String) (s : State) :
    ∀ a ∈ (GraphqlText.report scene span value s).2, scene.Places a := by
  intro a ha
  unfold report at ha
  split at ha
  · cases ha
  · obtain rfl := List.mem_singleton.mp ha
    exact rfl

theorem GraphqlText.step_places (scene : Scene) (n : Node) (s : State) :
    ∀ a ∈ (GraphqlText.step scene n s).2, scene.Places a := by
  obtain ⟨t, -, heq | ⟨m, value, -, heq⟩⟩ := step_cases scene n s
  · rw [heq]
    exact List.forall_mem_nil _
  · rw [heq]
    exact report_places scene m.span value t

theorem EventHook.step_places (scene : Scene) (n : Node) (s : State) :
    ∀ a ∈ (EventHook.step scene n s).2, scene.Places a := by
  have hrest : ∀ a ∈ ([] : List (Finding EventKind)), scene.Places a := fun a ha => nomatch ha
  have hkind (o : Option EventKind) : ∀ a ∈ (o.map (report scene n)).toList, scene.Places a := by
    intro a ha
    obtain ⟨kind, -, rfl⟩ := Option.map_eq_some_iff.mp (Option.mem_toList.mp ha)
    exact rfl
  cases n with
  | call span callee _ =>
      simp only [step]
      split
      · exact hrest
      · exact hkind _
  | assignment span operator target value =>
      rw [step_assignment]
      split
      · exact hrest
      · exact hkind _
  | member span receiver name computed =>
      simp only [step]
      split
      · exact hkind (some .location)
      · exact hrest
  | _ => exact hrest

theorem UrlUse.step_places (scene : Scene) (n : Node) (s : State) :
    ∀ a ∈ (UrlUse.step scene n s).2, scene.Places a.toFinding := by
  intro a ha
  rcases step_cases scene n s with ⟨o, -, -, heq⟩ | ⟨-, heq⟩
  · rw [heq] at ha
    obtain rfl := List.mem_singleton.mp ha
    exact rfl
  · rw [heq] at ha
    cases ha

/-! ## Runs -/

/-- The position that a finding carries. -/
def Detector.position : (d : Detector) → d.Found → Position
  | .httpCalls, a => a.toFinding.position
  | .graphql, a => Finding.position a
  | .domSinks, a => Finding.position a
  | .urls, a => a.toFinding.position
  | .events, a => Finding.position a

theorem Detector.look_places (d : Detector) (scene : Scene) (n : Node) (s : State) :
    ∀ a ∈ (d.look scene n s).2, d.position a = scene.position (d.span a).start := by
  cases d with
  | httpCalls => exact HttpCall.step_places scene n s
  | graphql => exact GraphqlText.step_places scene n s
  | domSinks => exact Sink.step_places scene n s
  | urls => exact UrlUse.step_places scene n s
  | events => exact EventHook.step_places scene n s

namespace Analysis

theorem analyzeTree_of_places (settings : Settings) (source : String) (root : Node)
    (d : Detector) : ∀ a ∈ (analyzeTree settings source root).of d,
      d.position a = (LineTable.ofText source).position (d.span a).start := by
  intro a ha
  cases hd : d.isEnabled settings.modules with
  | false =>
      rw [analyzeTree_of_disabled hd] at ha
      cases ha
  | true =>
      rw [analyzeTree_of_enabled hd] at ha
      obtain ⟨before, n, after, -, hn⟩ := exists_of_mem_scan _ ((d.settle_sublist _).subset ha)
      exact d.look_places (Scene.of source settings) n _ a hn

/-- **Positions count newlines.** The position of an offset is found as
if the bytes before it were counted, and every finding of a run, of
whatever category, carries the position of the start of its own span
that comes out of counting. -/
theorem analyzeTree_positions_counted :
    (∀ source offset, (LineTable.ofText source).position offset = Position.counted source offset)
      ∧ ∀ settings source root,
        let found := analyzeTree settings source root
        (∀ a ∈ found.urls, a.IsPlacedIn source) ∧ (∀ a ∈ found.graphql, a.IsPlacedIn source)
          ∧ (∀ a ∈ found.domSinks, a.IsPlacedIn source) ∧ (∀ a ∈ found.events, a.IsPlacedIn source)
          ∧ ∀ a ∈ found.httpCalls, a.IsPlacedIn source := by
  refine ⟨LineTable.position_eq_counted, fun settings source root => ?_⟩
  have hplaced {κ : Type} {a : Finding κ}
      (h : a.position = (LineTable.ofText source).position a.span.start) : a.IsPlacedIn source := by
    rw [LineTable.position_eq_counted] at h
    exact ⟨h, h ▸ Nat.le_add_right .., h ▸ Nat.le_add_right ..⟩
  have h := analyzeTree_of_places settings source root
  exact ⟨fun a ha => hplaced (h .urls a ha), fun a ha => hplaced (h .graphql a ha),
    fun a ha => hplaced (h .domSinks a ha), fun a ha => hplaced (h .events a ha),
    fun a ha => hplaced (h .httpCalls a ha)⟩

theorem analyzeTree_positions_counted_indented :
    let source := "// \u00e9\n  eval(x)"
    let root := Node.call ⟨8, 15⟩ (.identifier ⟨8, 12⟩ "eval") [.identifier ⟨13, 14⟩ "x"]
    ∃ a ∈ (analyzeTree {} source root).domSinks, a.IsPlacedIn source ∧ a.position = ⟨2, 3⟩ := by
  intro source root
  have hnodes : visited {} root =
      [root, .identifier ⟨8, 12⟩ "eval", .identifier ⟨13, 14⟩ "x"] := visited_eq_preorder {} root
  have hspans : (⟨8, 15⟩ : Span) ∈ (analyzeTree {} source root).domSinks.map (·.span) := by
    rw [analyzeTree_domSinks source root rfl, hnodes]
    decide +kernel
  obtain ⟨a, ha, hspan⟩ := List.mem_map.mp hspans
  obtain ⟨-, hplaced⟩ := analyzeTree_positions_counted
  obtain ⟨-, -, hsinks, -⟩ := hplaced {} source root
  have hcounted := hsinks a ha
  refine ⟨a, ha, hcounted, ?_⟩
  rw [hcounted.1, hspan]
  decide

end Analysis

end ScriptScout
