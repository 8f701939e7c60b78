import ScriptScout.Json.Record
import ScriptScout.Text.Span

/-!
# Findings

What an analysis reports, in five categories. Each finding has a value,
a position and a kind; the span that it stands under is known to the
analysis only and is not written out.
-/

namespace ScriptScout

open Json (Codec)

/-! ## Kinds -/

inductive UrlKind where
  | fullUrl
  | pathOnly
  | relativePath
  | apiEndpoint
  | filePath
  | dynamicUrl
  deriving Repr, DecidableEq, Inhabited

def UrlKind.all : List UrlKind :=
  [.fullUrl, .pathOnly, .relativePath, .apiEndpoint, .filePath, .dynamicUrl]

def UrlKind.name : UrlKind → String
  | fullUrl => "full-url"
  | pathOnly => "path-only"
  | relativePath => "relative-path"
  | apiEndpoint => "api-endpoint"
  | filePath => "file-path"
  | dynamicUrl => "dynamic-url"

inductive GraphqlKind where
  | query
  | mutation
  | subscription
  | schema
  | other
  deriving Repr, DecidableEq, Inhabited

def GraphqlKind.all : List GraphqlKind :=
  [.query, .mutation, .subscription, .schema, .other]

def GraphqlKind.name : GraphqlKind → String
  | query => "gql-query"
  | mutation => "gql-mutation"
  | subscription => "gql-subscription"
  | schema => "gql-schema"
  | other => "gql-other"

/-- The ways in which a script can turn text into markup or code. -/
inductive SinkKind where
  | eval
  | innerHtml
  | write
  | dangerousHtml
  | postMessage
  | domain
  deriving Repr, DecidableEq, Inhabited

def SinkKind.all : List SinkKind :=
  [.eval, .innerHtml, .write, .dangerousHtml, .postMessage, .domain]

def SinkKind.name : SinkKind → String
  | eval => "dom-eval"
  | innerHtml => "dom-innerHTML"
  | write => "dom-write"
  | dangerousHtml => "dom-dangerous-html"
  | postMessage => "dom-postmessage"
  | domain => "dom-domain"

inductive EventKind where
  | listener
  | onMessage
  | onHashChange
  | windowOpen
  | location
  deriving Repr, DecidableEq, Inhabited

def EventKind.all : List EventKind :=
  [.listener, .onMessage, .onHashChange, .windowOpen, .location]

def EventKind.name : EventKind → String
  | listener => "event-listener"
  | onMessage => "event-onmessage"
  | onHashChange => "event-onhashchange"
  | windowOpen => "event-window-open"
  | location => "event-location"

inductive HttpKind where
  | fetch
  | xhr
  | axios
  | jquery
  /-- A request opened with a method and an address. -/
  | method
  deriving Repr, DecidableEq, Inhabited

def HttpKind.all : List HttpKind :=
  [.fetch, .xhr, .axios, .jquery, .method]

def HttpKind.name : HttpKind → String
  | fetch => "http-fetch"
  | xhr => "http-xhr"
  | axios => "http-axios"
  | jquery => "http-jquery"
  | method => "http-method"

/-! ## Findings -/

/-- A finding of some kind. -/
structure Finding (κ : Type) where
  value : String
  position : Position
  kind : κ
  span : Span := ⟨0, 0⟩
  deriving Repr, Inhabited

/-- What can be told about an address. -/
structure UrlDetails where
  hostname : Option String := none
  port : Option String := none
  pathname : Option String := none
  /-- The query without its question mark. -/
  queryParams : Option String := none
  /-- The fragment without its hash sign. -/
  hash : Option String := none
  /-- A known file extension, with its point. -/
  extension : Option String := none
  isApi : Option Bool := none
  isSecure : Option Bool := none
  hasParams : Option Bool := none
  hasFragment : Option Bool := none
  /-- A score between 0 and 1. -/
  confidence : Float := 0
  deriving Repr, Inhabited

structure UrlFinding extends Finding UrlKind where
  details : UrlDetails
  deriving Repr, Inhabited

structure HttpFinding extends Finding HttpKind where
  /-- The method in upper case, if it can be told. -/
  method : Option String := none
  /-- The address, if it is given as a literal. -/
  url : Option String := none
  /-- The keys of the options. -/
  options : Option (List String) := none
  deriving Repr, Inhabited

/-- All findings of a run, each category in the order of discovery. -/
structure Findings where
  urls : List UrlFinding := []
  graphql : List (Finding GraphqlKind) := []
  domSinks : List (Finding SinkKind) := []
  events : List (Finding EventKind) := []
  httpCalls : List HttpFinding := []
  deriving Repr, Inhabited

namespace Findings

def total (f : Findings) : Nat :=
  f.urls.length + f.graphql.length + f.domSinks.length + f.events.length
    + f.httpCalls.length

def isEmpty (f : Findings) : Bool := f.total == 0

end Findings

/-! ## Findings as data -/

/-- The fields that every finding has; `get` and `set` reach them inside
a larger one. -/
def Finding.fields {σ κ : Type} (kinds : Codec κ) (get : σ → Finding κ)
    (set : Finding κ → σ → σ) : List (Json.Field σ) := [
  .mandatory "value" .string (fun s => (get s).value)
    fun a s => set { get s with value := a } s,
  .mandatory "line" .nat (fun s => (get s).position.line)
    fun a s => set { get s with position := { (get s).position with line := a } } s,
  .mandatory "column" .nat (fun s => (get s).position.column)
    fun a s => set { get s with position := { (get s).position with column := a } } s,
  .mandatory "type" kinds (fun s => (get s).kind)
    fun a s => set { get s with kind := a } s]

def Finding.codec {κ : Type} (all : List κ) (name : κ → String) (first : κ) :
    Codec (Finding κ) :=
  .record false (fields (.names all name) id fun a _ => a) ⟨"", ⟨0, 0⟩, first, ⟨0, 0⟩⟩

def UrlDetails.fields : List (Json.Field UrlDetails) := [
  .optional "hostname" .string (·.hostname) fun a s => { s with hostname := a },
  .optional "port" .string (·.port) fun a s => { s with port := a },
  .optional "pathname" .string (·.pathname) fun a s => { s with pathname := a },
  .optional "queryParams" .string (·.queryParams) fun a s => { s with queryParams := a },
  .optional "hash" .string (·.hash) fun a s => { s with hash := a },
  .optional "extension" .string (·.extension) fun a s => { s with extension := a },
  .optional "isApi" .bool (·.isApi) fun a s => { s with isApi := a },
  .optional "isSecure" .bool (·.isSecure) fun a s => { s with isSecure := a },
  .optional "hasParams" .bool (·.hasParams) fun a s => { s with hasParams := a },
  .optional "hasFragment" .bool (·.hasFragment) fun a s => { s with hasFragment := a },
  .mandatory "confidence" .real (·.confidence) fun a s => { s with confidence := a }]

def UrlDetails.codec : Codec UrlDetails :=
  .record false fields {}

def UrlFinding.codec : Codec UrlFinding :=
  .record false
    (Finding.fields (.names UrlKind.all UrlKind.name) (·.toFinding)
        (fun a s => { s with toFinding := a })
      ++ [.mandatory "metadata" UrlDetails.codec (·.details) fun a s => { s with details := a }])
    ⟨⟨"", ⟨0, 0⟩, .fullUrl, ⟨0, 0⟩⟩, {}⟩

def HttpFinding.codec : Codec HttpFinding :=
  .record false
    (Finding.fields (.names HttpKind.all HttpKind.name) (·.toFinding)
        (fun a s => { s with toFinding := a })
      ++ [.optional "method" .string (·.method) fun a s => { s with method := a },
        .optional "url" .string (·.url) fun a s => { s with url := a },
        .optional "options" (.list .string) (·.options) fun a s => { s with options := a }])
    ⟨⟨"", ⟨0, 0⟩, .fetch, ⟨0, 0⟩⟩, none, none, none⟩

def Findings.codec : Codec Findings :=
  .record false [
    .mandatory "urls" (.list UrlFinding.codec) (·.urls) fun a s => { s with urls := a },
    .mandatory "graphql" (.list (Finding.codec GraphqlKind.all GraphqlKind.name .query))
      (·.graphql) fun a s => { s with graphql := a },
    .mandatory "domxss" (.list (Finding.codec SinkKind.all SinkKind.name .eval))
      (·.domSinks) fun a s => { s with domSinks := a },
    .mandatory "events" (.list (Finding.codec EventKind.all EventKind.name .listener))
      (·.events) fun a s => { s with events := a },
    .mandatory "httpapi" (.list HttpFinding.codec) (·.httpCalls)
      fun a s => { s with httpCalls := a }] {}

namespace Findings

def toJson (f : Findings) : Json := codec.write f

def ofJson? (j : Json) : Option Findings := codec.read j

end Findings

end ScriptScout
