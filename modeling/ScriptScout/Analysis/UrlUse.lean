import ScriptScout.Analysis.State
import ScriptScout.Url.Classify

/-!
# Addresses in scripts

Finds addresses in literals and in the strings that expressions build.
A parent is visited before its parts and can offer one of them with
more to say of it, such as that it is the first argument of a request;
the first offer under a span that is worth reporting is reported, and
later ones are not. A failed offer blocks nothing.

Declarations bind names, so that later expressions can use their
values. A value that a declaration builds from parts supersedes the
addresses that stand inside it, whenever they were found; the run
removes those at its end.
-/

namespace ScriptScout.UrlUse

open Url (Site)

/-! ## Where addresses are expected -/

/-- Names of properties that hold addresses. -/
def propertyNames : List String :=
  ["url", "endpoint", "baseURL", "href", "src", "action", "api", "path", "route",
    "link", "uri", "host", "domain"]

/-- Names of functions that make requests. -/
def requestNames : List String :=
  ["fetch", "axios", "request", "get", "post", "put", "delete", "patch"]

/-- Functions whose first argument is an address. -/
def calleeNames : List String := requestNames ++ ["open"]

def jqueryMethods : List String := ["ajax", "get", "post", "put", "delete"]

/-- Targets of assignments that take an address. -/
def assignedNames : List String := ["href", "src", "location"]

def callSite (name : String) : Site :=
  if requestNames.contains name then .call else .plain

/-! ## Offers -/

/-- A value that might be an address, the span that it stands under,
and where it was found. -/
structure Offer where
  span : Span
  value : String
  site : Site
  deriving Repr, DecidableEq, Inhabited

/-- Offers the value of an expression, if it can be told. -/
def offer? (b : Bindings) (n : Node) (site : Site) : Option Offer :=
  (n.resolve b).map fun value => ⟨n.span, value, site⟩

/-- Which node a call offers, and from what site. -/
def callTarget? (n : Node) : Option (Node × Site) :=
  match n with
  | .call _ callee arguments =>
      let first (site : Site) := arguments.head?.map (·, site)
      match callee.identifier? with
      | some name => if calleeNames.contains name then first (callSite name) else none
      | none =>
          match callee.member? with
          | none => none
          | some (receiver, method) =>
              if (receiver.isIdentifier "$" || receiver.isIdentifier "jQuery")
                  && jqueryMethods.contains method then
                first (callSite method)
              else if method == "load" then first .plain
              else if (method == "replace" || method == "assign") && receiver.isLocation then
                first .plain
              else if n.isConcatCall then some (n, .plain)
              else none
  | _ => none

/-- Which node a node offers, and from what site. Declarations are
dealt with by `step`. -/
def target? (a : AnalysisSettings) (n : Node) : Option (Node × Site) :=
  match n with
  | .literal _ (.string _) | .template .. => some (n, .plain)
  | .binary _ operator _ _ => if operator == "+" then some (n, .plain) else none
  | .call .. => callTarget? n
  | .assignment _ _ target value =>
      match target.memberName? with
      | some name =>
          if assignedNames.contains name then
            some (value, if propertyNames.contains name then .property else .plain)
          else none
      | none => none
  | .property _ _ value _ =>
      if a.enableObjectPropertyAnalysis && n.propertyKey?.any propertyNames.contains then
        some (value, .property)
      else none
  | _ => none

/-! ## Reports -/

/-- The classification of an offered value, if it is worth reporting
under the settings. -/
def judge? (settings : Settings) (value : String) (site : Site) : Option Url.Classification := do
  guard (Url.isCandidate settings value)
  let c := Url.classify settings value site
  guard !(c.kind == .relativePath && !settings.analysis.includeRelativePaths)
  guard !(c.kind == .filePath && !settings.analysis.includeFileExtensions)
  guard !(c.details.confidence < settings.analysis.confidenceThreshold)
  return c

/-- Reports an offer under a span that has no report yet. -/
def report (scene : Scene) (o : Offer) (s : State) : State × List UrlFinding :=
  if s.isMarked .urls o.span then (s, [])
  else
    let value := normalizeValue o.value
    match judge? scene.settings value o.site with
    | some c =>
        (s.mark .urls o.span,
          [{ scene.finding o.span value c.kind with details := c.details }])
    | none => (s, [])

def reportOption (scene : Scene) (o : Option Offer) (s : State) : State × List UrlFinding :=
  match o with
  | some o => report scene o s
  | none => (s, [])

/-- Binds the name of a declaration to the value of its initializer,
which is resolved before the name is bound. -/
def declare (scene : Scene) (name : String) (init : Node) (s : State) :
    State × List UrlFinding :=
  match init.resolve s.bindings with
  | some value =>
      let s := s.bind name value
      let s := if init.isDynamic then s.supersede (normalizeValue value) else s
      report scene ⟨init.span, value, .plain⟩ s
  | none => (s, [])

/-- Looks at one node. -/
def step (scene : Scene) (n : Node) (s : State) : State × List UrlFinding :=
  match n with
  | .declarator _ id (some init) =>
      match id.identifier? with
      | some name =>
          if scene.settings.analysis.enableVariableTracking then declare scene name init s
          else (s, [])
      | none => (s, [])
  | _ =>
      reportOption scene
        ((target? scene.settings.analysis n).bind fun (m, site) => offer? s.bindings m site) s

/-- Removes the addresses that stand inside a superseding value. -/
def retract (s : State) (urls : List UrlFinding) : List UrlFinding :=
  urls.filter fun u => !s.isSuperseded u.value

end ScriptScout.UrlUse
