import ScriptScout.Proofs.Records
import ScriptScout.Report.Data

/-!
# Reports that read back

The text of findings, pretty or compact, reads back as the findings
without their spans, which are not written. Lines and columns are
numbers of 64 bits; of a confidence it is asked that its text reads
back as the same double.
-/

namespace ScriptScout

open Json (Codec)

/-! ## What comes back -/

def Finding.unspanned {κ : Type} (f : Finding κ) : Finding κ := { f with span := ⟨0, 0⟩ }

def UrlFinding.unspanned (f : UrlFinding) : UrlFinding :=
  { f with toFinding := f.toFinding.unspanned }

def HttpFinding.unspanned (f : HttpFinding) : HttpFinding :=
  { f with toFinding := f.toFinding.unspanned }

/-- The findings with every span reset. -/
def Findings.unspanned (f : Findings) : Findings where
  urls := f.urls.map (·.unspanned)
  graphql := f.graphql.map (·.unspanned)
  domSinks := f.domSinks.map (·.unspanned)
  events := f.events.map (·.unspanned)
  httpCalls := f.httpCalls.map (·.unspanned)

section

open Json.Codec Json.Field

variable {k : Json → Json} (hk : Json.Faithful k)
include hk

/-- The fields that every finding has, inside a larger one. -/
theorem Finding.foldlM_copy_fields {σ κ : Type} {all : List κ} {name : κ → String}
    (hnames : ∀ a, all.find? (name · == name a) = some a) {get : σ → Finding κ}
    {set : Finding κ → σ → σ} {rest : List (Json.Field σ)} {s t u : σ}
    (hget : ∀ f s, get (set f s) = f) (hset : ∀ f g s, set f (set g s) = set f s)
    (h : rest.foldlM (copy k s) (set { get s with span := (get t).span } t) = some u) :
    (Finding.fields (.names all name) get set ++ rest).foldlM (copy k s) t = some u := by
  refine foldlM_copy_cons (copy_mandatory (string_returns hk _)) ?_
  refine foldlM_copy_cons (copy_mandatory (nat_returns hk _)) ?_
  refine foldlM_copy_cons (copy_mandatory (nat_returns hk _)) ?_
  refine foldlM_copy_cons (copy_mandatory (names_returns hk (hnames _))) ?_
  simp only [hget, hset]
  exact h

theorem Finding.codec_returns {κ : Type} {all : List κ} {name : κ → String} {first : κ}
    (hnames : ∀ a, all.find? (name · == name a) = some a) (f : Finding κ) :
    (Finding.codec all name first).Returns k f f.unspanned := by
  have hkeys : ["value", "line", "column", "type"].Nodup := by decide
  refine record_returns hk hkeys ?_
  have hfields : (Finding.fields (.names all name) id (fun a _ => a) ++ []).foldlM (copy k f)
      ⟨"", ⟨0, 0⟩, first, ⟨0, 0⟩⟩ = some f.unspanned :=
    Finding.foldlM_copy_fields hk hnames (fun _ _ => rfl) (fun _ _ _ => rfl) rfl
  rwa [List.append_nil] at hfields

theorem UrlDetails.codec_returns (d : UrlDetails) : UrlDetails.codec.Returns k d d := by
  refine record_returns hk (by decide) ?_
  iterate 6
    refine foldlM_copy_cons (copy_optional (string_returns hk) (string_not_null hk) rfl) ?_
  iterate 4
    refine foldlM_copy_cons (copy_optional (bool_returns hk) (bool_not_null hk) rfl) ?_
  exact foldlM_copy_cons (copy_mandatory (real_returns hk _)) rfl

theorem UrlFinding.codec_returns (f : UrlFinding) : UrlFinding.codec.Returns k f f.unspanned := by
  refine record_returns hk (by decide) ?_
  refine Finding.foldlM_copy_fields hk (fun a => by cases a <;> rfl) (fun _ _ => rfl)
    (fun _ _ _ => rfl) ?_
  exact foldlM_copy_cons (copy_mandatory (UrlDetails.codec_returns hk _)) rfl

theorem HttpFinding.codec_returns (f : HttpFinding) :
    HttpFinding.codec.Returns k f f.unspanned := by
  refine record_returns hk (by decide) ?_
  refine Finding.foldlM_copy_fields hk (fun a => by cases a <;> rfl) (fun _ _ => rfl)
    (fun _ _ _ => rfl) ?_
  iterate 2
    refine foldlM_copy_cons (copy_optional (string_returns hk) (string_not_null hk) rfl) ?_
  exact foldlM_copy_cons (copy_optional (strings_returns hk) (list_not_null hk _) rfl) rfl

theorem Findings.codec_returns (f : Findings) : Findings.codec.Returns k f f.unspanned := by
  refine record_returns hk (by decide) ?_
  have hurls := list_returns hk fun u (_ : u ∈ f.urls) => UrlFinding.codec_returns hk u
  have hcalls := list_returns hk fun c (_ : c ∈ f.httpCalls) => HttpFinding.codec_returns hk c
  refine foldlM_copy_cons (copy_mandatory hurls) ?_
  iterate 3
    refine foldlM_copy_cons (copy_mandatory (list_returns hk fun g _ =>
      Finding.codec_returns hk (fun a => by cases a <;> rfl) g)) ?_
  exact foldlM_copy_cons (copy_mandatory hcalls) rfl

end

/-! ## What can be written -/

/-- Lines and columns are numbers of 64 bits. -/
def Position.IsSmall (p : Position) : Prop := p.line < 2 ^ 64 ∧ p.column < 2 ^ 64

/-- The positions are small, and the texts of the confidences read
back. -/
structure Findings.Printable (f : Findings) : Prop where
  urls : ∀ u ∈ f.urls, u.position.IsSmall ∧ (Json.Number.real u.details.confidence).ReadsBack
  graphql : ∀ g ∈ f.graphql, g.position.IsSmall
  domSinks : ∀ d ∈ f.domSinks, d.position.IsSmall
  events : ∀ e ∈ f.events, e.position.IsSmall
  httpCalls : ∀ c ∈ f.httpCalls, c.position.IsSmall

section

open Json

variable {depth : Nat}

theorem Finding.fits_fields {σ κ : Type} {kinds : List κ} {name : κ → String} {get : σ → Finding κ}
    {set : Finding κ → σ → σ} {s : σ} (h : (get s).position.IsSmall) :
    ∀ f ∈ Finding.fields (.names kinds name) get set, ∀ j ∈ f.get s, Fits depth j := by
  simp only [Finding.fields, List.forall_mem_cons]
  exact ⟨fits_mandatory (fits_string _), fits_mandatory (fits_nat h.1),
    fits_mandatory (fits_nat h.2), fits_mandatory (fits_string _), fun f hf => nomatch hf⟩

theorem Finding.fits_codec {κ : Type} {kinds : List κ} {name : κ → String} {first : κ}
    {f : Finding κ} (h : f.position.IsSmall) :
    Fits (depth + 1) ((Finding.codec kinds name first).write f) :=
  fits_record (Finding.fits_fields h)

theorem UrlDetails.fits_codec {d : UrlDetails} (h : (Number.real d.confidence).ReadsBack) :
    Fits (depth + 1) (UrlDetails.codec.write d) := by
  refine fits_record ?_
  simp only [UrlDetails.fields, List.forall_mem_cons]
  iterate 6 refine ⟨fits_optional fits_string, ?_⟩
  iterate 4 refine ⟨fits_optional fits_bool, ?_⟩
  exact ⟨fits_mandatory (fits_real h), fun f hf => nomatch hf⟩

theorem UrlFinding.fits_codec {f : UrlFinding} (h : f.position.IsSmall)
    (hconfidence : (Number.real f.details.confidence).ReadsBack) :
    Fits (depth + 2) (UrlFinding.codec.write f) := by
  refine fits_record (List.forall_mem_append.mpr ⟨Finding.fits_fields h, ?_⟩)
  exact List.forall_mem_singleton.mpr (fits_mandatory (UrlDetails.fits_codec hconfidence))

theorem HttpFinding.fits_codec {f : HttpFinding} (h : f.position.IsSmall) :
    Fits (depth + 2) (HttpFinding.codec.write f) := by
  refine fits_record (List.forall_mem_append.mpr ⟨Finding.fits_fields h, ?_⟩)
  simp only [List.forall_mem_cons]
  exact ⟨fits_optional fits_string, fits_optional fits_string,
    fits_optional fun xs => fits_list fun s _ => fits_string s, fun f hf => nomatch hf⟩

theorem Findings.fits_toJson {f : Findings} (h : f.Printable) :
    Fits (depth + 4) f.toJson := by
  refine fits_record ?_
  simp only [List.forall_mem_cons]
  refine ⟨fits_mandatory (fits_list fun u hu => ?_), fits_mandatory (fits_list fun g hg => ?_),
    fits_mandatory (fits_list fun d hd => ?_), fits_mandatory (fits_list fun e he => ?_),
    fits_mandatory (fits_list fun c hc => ?_), fun f hf => nomatch hf⟩
  · exact UrlFinding.fits_codec (h.urls u hu).1 (h.urls u hu).2
  · exact Finding.fits_codec (h.graphql g hg)
  · exact Finding.fits_codec (h.domSinks d hd)
  · exact Finding.fits_codec (h.events e he)
  · exact HttpFinding.fits_codec (h.httpCalls c hc)

end

namespace Report.Data

/-- The text of findings, pretty or compact, reads back as the findings
without their spans, and both texts hold the same data. -/
theorem parse_render {f : Findings} (h : f.Printable) :
    (∀ pretty, (Json.parse (render pretty f)).bind Findings.ofJson? = some f.unspanned)
      ∧ Json.parse (render true f) = Json.parse (render false f) := by
  have hparse (pretty : Bool) : Json.parse (render pretty f) = some f.toJson.ordered := by
    cases pretty with
    | true => exact Json.parse_write .pretty (Findings.fits_toJson h)
    | false => exact Json.parse_write .compact (Findings.fits_toJson h)
  refine ⟨fun pretty => ?_, by rw [hparse, hparse]⟩
  rw [hparse, Option.bind_some]
  exact Findings.codec_returns Json.faithful_ordered f

/-- Quotes, backslashes and control characters in a value, and fields
that are absent. -/
theorem parse_render_escaped :
    let f : Findings := {
      urls := [⟨⟨"/api?q=\"\\\u0001é", ⟨1, 5⟩, .apiEndpoint, ⟨4, 17⟩⟩,
        { hostname := some "a.b", isApi := some true, confidence := 0.95 }⟩]
      httpCalls := [⟨⟨"fetch(x)", ⟨2, 1⟩, .fetch, ⟨20, 28⟩⟩, some "GET", none, some ["a", "b"]⟩] }
    f.Printable
      ∧ (∀ pretty, (Json.parse (render pretty f)).bind Findings.ofJson? = some f.unspanned)
      ∧ f.unspanned.urls.map (·.span) = [⟨0, 0⟩] := by
  intro f
  have hprintable : f.Printable := by
    refine ⟨List.forall_mem_singleton.mpr ⟨⟨by decide, by decide⟩, ?_⟩, nofun, nofun, nofun,
      List.forall_mem_singleton.mpr ⟨by decide, by decide⟩⟩
    rfl
  exact ⟨hprintable, (parse_render hprintable).1, rfl⟩

end Report.Data

end ScriptScout
