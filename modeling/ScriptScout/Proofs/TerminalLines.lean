import Mathlib.Algebra.Ring.Nat
import Mathlib.Data.List.Basic
import ScriptScout.Proofs.Text.Lines
import ScriptScout.Report.Terminal

/-!
# The lines of a report

A report on the terminal is meant to be read by lines: a title, and for
each category with findings a heading with one line per finding below
it. The values of findings come out of the source that is analyzed, so
they may hold anything; what keeps them on a line is `shorten`, which
leaves single spaces and no other blank (`singleSpaced_shorten`). It
cuts off what is too long, and the ellipsis goes well with that: to
shorten a value a second time changes nothing (`shorten_normal`).

The method and the address of a request do not go through `shorten`.
`lines_render` has the lines of a report as they are: all as meant, but
a request takes a line more for each newline in its method and its
address.
-/

namespace ScriptScout

namespace Report.Terminal

open ScriptScout.Text (Collapsed SingleSpaced breaks breaks_append)

/-! ## Values -/

theorem shorten_of_collapsed {v : String} {line : List Char} (h : Collapsed v.toList line) :
    shorten v = if line.length ≤ 120 then String.ofList line
      else String.ofList (line.take 119 ++ ['…']) := by
  rw [shorten, ← Text.collapsed_iff.mp h]
  rfl

theorem length_shorten (v : String) : (shorten v).length ≤ 120 := by
  rw [shorten_of_collapsed (Text.collapsed_words v.toList)]
  split
  · next hfits => rwa [String.length_ofList]
  · rw [String.length_ofList, List.length_append, List.length_take, List.length_singleton]
    omega

theorem singleSpaced_shorten (v : String) : SingleSpaced (shorten v).toList := by
  have hline := (Text.collapsed_words v.toList).singleSpaced
  rw [shorten_of_collapsed (Text.collapsed_words v.toList)]
  split
  · rwa [String.toList_ofList]
  · rw [String.toList_ofList]
    exact hline.cut 119 (by decide)

/-- **A shortened value is in normal form.** It fits and has single
spaces only. It is the collapsed form of the value if that fits, and
otherwise starts like it and ends in an ellipsis; to shorten it again
changes nothing. -/
theorem shorten_normal (v : String) :
    (shorten v).length ≤ 120 ∧ SingleSpaced (shorten v).toList
    ∧ (∃ line, (∀ other, Collapsed v.toList other ↔ other = line)
      ∧ (line.length ≤ 120 → shorten v = String.ofList line)
      ∧ (120 < line.length → shorten v = String.ofList (line.take 119 ++ ['…'])))
    ∧ shorten (shorten v) = shorten v := by
  have hlength := length_shorten v
  have hspaced := singleSpaced_shorten v
  have hcollapsed := shorten_of_collapsed (Text.collapsed_words v.toList)
  refine ⟨hlength, hspaced, ⟨_, fun other => Text.collapsed_iff, fun hfits => ?_, fun hlong => ?_⟩,
    ?_⟩
  · rw [hcollapsed, if_pos hfits]
  · rw [hcollapsed, if_neg (Nat.not_le_of_lt hlong)]
  · rw [shorten_of_collapsed hspaced.collapsed, if_pos (by rwa [String.length_toList]),
      String.ofList_toList]

/-! ## Lines of findings -/

theorem breaks_shorten (value : String) : breaks (shorten value) = 0 := by
  rw [Text.breaks_eq_zero]
  intro h
  cases (singleSpaced_shorten value).spaces '\n' h (by decide)

@[simp] theorem apply_plain (p : Paint) (text : String) : p.apply false text = text := rfl

theorem breaks_findingLine {κ : Type} {name : κ → String} (hname : ∀ k, breaks (name k) = 0)
    (f : Finding κ) : breaks (findingLine false name f) = 0 := by
  simp only [findingLine, matchLine, apply_plain, breaks_append, hname, breaks_shorten,
    Text.breaks_toString]
  rfl

theorem breaks_urlKind (k : UrlKind) : breaks k.name = 0 := by cases k <;> rfl

theorem breaks_graphqlKind (k : GraphqlKind) : breaks k.name = 0 := by cases k <;> rfl

theorem breaks_sinkKind (k : SinkKind) : breaks k.name = 0 := by cases k <;> rfl

theorem breaks_eventKind (k : EventKind) : breaks k.name = 0 := by cases k <;> rfl

theorem breaks_httpKind (k : HttpKind) : breaks k.name = 0 := by cases k <;> rfl

theorem breaks_urlLine (f : UrlFinding) : breaks (urlLine false f) = 0 := by
  rw [urlLine, apply_plain, breaks_append, breaks_append, breaks_findingLine breaks_urlKind,
    Text.breaks_fixed]
  rfl

/-- The newlines in the method and the address of a request. -/
def requestBreaks (f : HttpFinding) : Nat := f.method.elim 0 breaks + f.url.elim 0 breaks

/-- A request is set in as many lines as it brings itself. -/
theorem breaks_httpLine (f : HttpFinding) : breaks (httpLine false f) = requestBreaks f := by
  have hspace : breaks " " = 0 := rfl
  have hnone : breaks "" = 0 := rfl
  rw [httpLine, breaks_append, breaks_append, breaks_findingLine breaks_httpKind, requestBreaks]
  cases f.method <;> cases f.url <;> simp [hspace, hnone]

/-! ## The lines of a report -/

/-- A heading with the lines of each finding under it; nothing if there
are no findings. -/
def block (icon title : String) (entries : List (List (List Char))) : List (List Char) :=
  if entries.isEmpty then []
  else ("  " ++ icon ++ " " ++ title ++ " (" ++ toString entries.length ++ ")").toList
    :: entries.flatten

theorem lines_sectionLines {icon title : String} (hicon : breaks icon = 0)
    (htitle : breaks title = 0) (texts : List String) :
    (sectionLines false icon title texts).flatMap Text.lines =
      block icon title (texts.map Text.lines) := by
  cases texts with
  | nil => rfl
  | cons text texts =>
      have hheading : breaks ("  " ++ icon ++ " " ++ title ++ " ("
          ++ toString (text :: texts).length ++ ")") = 0 := by
        simp only [breaks_append, hicon, htitle, Text.breaks_toString]
        rfl
      rw [sectionLines, block, if_neg (by simp), if_neg (by simp), apply_plain, List.flatMap_cons,
        Text.lines_of_breaks hheading, List.length_map, List.flatMap_def]
      rfl

/-- Findings without newlines are one line each under their heading. -/
theorem lines_sectionLines_of_breaks {α : Type} {icon title : String} (hicon : breaks icon = 0)
    (htitle : breaks title = 0) {line : α → String} (hline : ∀ a, breaks (line a) = 0)
    (found : List α) : (sectionLines false icon title (found.map line)).flatMap Text.lines =
      block icon title (found.map fun a => [(line a).toList]) := by
  rw [lines_sectionLines hicon htitle, List.map_map]
  exact congrArg (block icon title) (List.map_congr_left fun a _ => Text.lines_of_breaks (hline a))

theorem lines_render_empty {file : String} (hfile : breaks file = 0) {f : Findings}
    (h : f.isEmpty = true) :
    Text.lines (render false file f) = [file.toList, "  nothing found".toList] := by
  have hnothing : breaks ("  " ++ "nothing found") = 0 := rfl
  rw [render, lines, if_pos h, Text.lines_intercalate (by simp), apply_plain, apply_plain,
    List.flatMap_cons, List.flatMap_cons, Text.lines_of_breaks hfile,
    Text.lines_of_breaks hnothing]
  rfl

/-- The title and the categories of a report, the findings of each in
their order. All take one line, but requests may take more. -/
def layout (file : String) (f : Findings) : List (List Char) :=
  file.toList ::
    (block "🔗" "URLs" (f.urls.map fun m => [(urlLine false m).toList])
      ++ block "◈" "GraphQL"
        (f.graphql.map fun m => [(findingLine false GraphqlKind.name m).toList])
      ++ block "❌" "DOM XSS sinks"
        (f.domSinks.map fun m => [(findingLine false SinkKind.name m).toList])
      ++ block "⚡" "Events" (f.events.map fun m => [(findingLine false EventKind.name m).toList])
      ++ block "🌐" "HTTP calls" (f.httpCalls.map fun m => Text.lines (httpLine false m)))

theorem lines_render {file : String} (hfile : breaks file = 0) {f : Findings}
    (h : f.isEmpty = false) : Text.lines (render false file f) = layout file f := by
  rw [render, lines, if_neg (by simp [h]), Text.lines_intercalate (by simp), List.flatMap_cons,
    layout]
  simp only [apply_plain, List.flatMap_append, Text.lines_of_breaks hfile]
  rw [lines_sectionLines_of_breaks rfl rfl breaks_urlLine,
    lines_sectionLines_of_breaks rfl rfl (breaks_findingLine breaks_graphqlKind),
    lines_sectionLines_of_breaks rfl rfl (breaks_findingLine breaks_sinkKind),
    lines_sectionLines_of_breaks rfl rfl (breaks_findingLine breaks_eventKind),
    lines_sectionLines rfl rfl, List.map_map, List.singleton_append, Function.comp_def]

/-! ## How many lines there are -/

/-- One for a category with findings. -/
def shown {α : Type} (found : List α) : Nat := if found.isEmpty then 0 else 1

/-- The number of categories with findings. -/
def categories (f : Findings) : Nat :=
  shown f.urls + shown f.graphql + shown f.domSinks + shown f.events + shown f.httpCalls

theorem length_entries {α : Type} {entry : α → List (List Char)} {extra : α → Nat}
    (h : ∀ a, (entry a).length = extra a + 1) (found : List α) :
    (found.map entry).flatten.length = found.length + (found.map extra).sum := by
  induction found with
  | nil => rfl
  | cons a found ih =>
      simp only [List.map_cons, List.flatten_cons, List.length_append, List.length_cons,
        List.sum_cons, h, ih]
      omega

theorem length_block (icon title : String) {α : Type} {entry : α → List (List Char)}
    {extra : α → Nat} (h : ∀ a, (entry a).length = extra a + 1) (found : List α) :
    (block icon title (found.map entry)).length =
      shown found + found.length + (found.map extra).sum := by
  cases found with
  | nil => rfl
  | cons a found =>
      rw [block, if_neg (by simp), List.length_cons, length_entries h, shown, if_neg (by simp)]
      omega

theorem length_block_single (icon title : String) {α : Type} (line : α → List Char)
    (found : List α) :
    (block icon title (found.map fun a => [line a])).length = shown found + found.length := by
  have hone (a : α) : [line a].length = (fun _ => 0) a + 1 := rfl
  have hlength := length_block icon title hone found
  rwa [List.map_const', List.sum_replicate_nat, Nat.mul_zero, Nat.add_zero] at hlength

theorem length_httpLine (f : HttpFinding) :
    (Text.lines (httpLine false f)).length = requestBreaks f + 1 := by
  rw [Text.length_lines, breaks_httpLine]

theorem length_layout (file : String) (f : Findings) : (layout file f).length =
    1 + categories f + f.total + (f.httpCalls.map requestBreaks).sum := by
  simp only [layout, List.length_cons, List.length_append, length_block_single,
    length_block _ _ length_httpLine, categories, Findings.total]
  omega

/-- The lines of a report without colours. A finding is one line below
the heading of its category, in its turn, except that a request takes a
line more for every newline in its method and its address. -/
theorem render_lines {file : String} (hfile : '\n' ∉ file.toList) (f : Findings) :
    (f.isEmpty = true →
      Text.lines (render false file f) = [file.toList, "  nothing found".toList])
    ∧ (f.isEmpty = false → Text.lines (render false file f) = layout file f
      ∧ (Text.lines (render false file f)).length =
        1 + categories f + f.total + (f.httpCalls.map requestBreaks).sum
      ∧ ((Text.lines (render false file f)).length = 1 + categories f + f.total ↔
        ∀ m ∈ f.httpCalls, requestBreaks m = 0))
    ∧ ∀ m, (Text.lines (httpLine false m)).length = requestBreaks m + 1 := by
  have hbreaks : breaks file = 0 := Text.breaks_eq_zero.mpr hfile
  refine ⟨lines_render_empty hbreaks, fun h => ?_, length_httpLine⟩
  rw [lines_render hbreaks h, length_layout, Nat.add_eq_left]
  refine ⟨rfl, rfl, ?_⟩
  rw [List.sum_eq_zero_iff_forall_eq_nat, List.forall_mem_map]

/-- A request whose address has a newline, and after it what could be
the line of another finding. -/
def forgingRequest : HttpFinding :=
  { value := "fetch(u)", position := ⟨1, 1⟩, kind := .fetch, span := ⟨0, 8⟩
    url := some "/x\n    [dom-eval] eval(code) 9:9" }

theorem lines_forgingRequest : Text.lines (httpLine false forgingRequest) =
    [(findingLine false HttpKind.name forgingRequest.toFinding ++ " /x").toList,
      "    [dom-eval] eval(code) 9:9".toList] := by
  have hline : httpLine false forgingRequest = String.intercalate "\n"
      [findingLine false HttpKind.name forgingRequest.toFinding ++ " /x",
        "    [dom-eval] eval(code) 9:9"] := by
    rw [String.intercalate_cons_cons, String.append_assoc, String.append_assoc, httpLine,
      String.append_assoc]
    rfl
  have hfirst : breaks (findingLine false HttpKind.name forgingRequest.toFinding ++ " /x") = 0 := by
    rw [breaks_append, breaks_findingLine breaks_httpKind]
    rfl
  have hforged : breaks "    [dom-eval] eval(code) 9:9" = 0 := rfl
  rw [hline, Text.lines_intercalate (by simp), List.flatMap_cons, List.flatMap_singleton,
    Text.lines_of_breaks hfirst, Text.lines_of_breaks hforged, List.singleton_append]

/-- One finding, and two lines below its heading. -/
theorem render_forges_line :
    let f : Findings := { httpCalls := [forgingRequest] }
    f.isEmpty = false ∧ 1 + categories f + f.total = 3
    ∧ (Text.lines (render false "a.js" f)).length = 4
    ∧ "    [dom-eval] eval(code) 9:9".toList ∈ Text.lines (render false "a.js" f) := by
  intro f
  have hlines : Text.lines (render false "a.js" f) = layout "a.js" f := lines_render rfl rfl
  rw [hlines, length_layout]
  refine ⟨rfl, rfl, by decide, ?_⟩
  have hforged : "    [dom-eval] eval(code) 9:9".toList ∈
      block "🌐" "HTTP calls" [Text.lines (httpLine false forgingRequest)] := by
    rw [block, if_neg (by simp), lines_forgingRequest]
    simp
  exact List.mem_cons_of_mem _ (List.mem_append_right _ hforged)

/-- A sink and the forging request: a title, two headings, two findings
and the line that is forged. -/
theorem render_lines_sink_and_request :
    let f : Findings :=
      { domSinks := [⟨"eval(x)", ⟨2, 1⟩, .eval, ⟨9, 16⟩⟩], httpCalls := [forgingRequest] }
    '\n' ∉ "a.js".toList ∧ f.isEmpty = false
    ∧ (Text.lines (render false "a.js" f)).length = 6
    ∧ Text.lines (render false "a.js" {}) = ["a.js".toList, "  nothing found".toList] := by
  intro f
  have hfile : '\n' ∉ "a.js".toList := by decide
  obtain ⟨-, hcount, -⟩ := (render_lines hfile f).2.1 rfl
  refine ⟨hfile, rfl, ?_, (render_lines hfile {}).1 rfl⟩
  rw [hcount]
  decide

end Report.Terminal

end ScriptScout
