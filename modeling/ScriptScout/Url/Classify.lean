import ScriptScout.Finding
import ScriptScout.Resolve
import ScriptScout.Settings
import ScriptScout.Url.Shape

/-!
# Classifying addresses

A text has to pass `isCandidate`, which turns down prose, code and
random tokens, before it is worth reporting. `classify` then gives it a
kind, by the first shape that fits, and a confidence: a base for the
kind with bonuses added, within 0 and 1.
-/

namespace ScriptScout.Url

open Web (Address)

/-! ## Candidates -/

/-- Characters that no address worth reporting holds. -/
def isUnlikely (c : Char) : Bool :=
  " ()!<>'\"\x7b\x7d^$,".toList.contains c

/-- Words that are never addresses: single letters, numbers, runs of
slashes or points, and words of the language. -/
def isCommonWord (cs : List Char) : Bool :=
  let words := ["true", "false", "null", "undefined", "function", "class", "const",
    "let", "var", "if", "else", "for", "while", "return"]
  (cs.length == 1 && cs.all Char.isAlpha)
    || (!cs.isEmpty && cs.all Text.isDecimalDigit)
    || (!cs.isEmpty && cs.all (· == '/'))
    || (!cs.isEmpty && cs.all (· == '.'))
    || words.any (·.toList == Text.fold cs)

/-- May the text start an address? -/
def startsWell (cs : List Char) : Bool :=
  cs.head?.any (fun c => c.isAlpha || c == '/')
    || "./".toList.isPrefixOf cs || "../".toList.isPrefixOf cs

/-- Only the current directory or the one above. -/
def isBareDots (cs : List Char) : Bool :=
  ["." , "..", "./", "../"].any (·.toList == cs)

/-- Is the text worth classifying? -/
def isCandidate (s : Settings) (value : String) : Bool :=
  let cs := value.toList
  let segments := (Text.splitOn '/' cs).filter (!·.isEmpty)
  s.analysis.minPathLength ≤ cs.length
    && cs.length ≤ s.analysis.maxPathLength
    && startsWell cs
    && cs.any Char.isAlpha
    && !cs.any isUnlikely
    && !(entropy cs ≥ s.heuristics.entropyThreshold)
    && cs.contains '/'
    && !isBareDots cs
    && segments.any (3 ≤ ·.length)
    && !segments.all (placeholder.toList.isPrefixOf ·)
    && !(s.analysis.excludeCommonWords && isCommonWord cs)

/-! ## Classification -/

/-- Where a text was found. -/
inductive Site where
  | plain
  /-- The value of a property whose name speaks of addresses. -/
  | property
  /-- The first argument of a call that makes requests. -/
  | call
  deriving Repr, DecidableEq, Inhabited

structure Classification where
  kind : UrlKind
  details : UrlDetails
  deriving Repr, Inhabited

/-- The kind of the first shape that fits, and its base confidence. -/
def kindOf (value : String) : UrlKind × Float :=
  if isFull value then (.fullUrl, 0.9)
  else if isHostname value then (.fullUrl, 0.8)
  else if isApi value then (.apiEndpoint, 0.8)
  else if isRootPath value then (.pathOnly, 0.7)
  else if isFile value then (.filePath, 0.7)
  else if isRelative value then (.relativePath, 0.6)
  else (.dynamicUrl, 0.5)

/-- What paths are read relative to. Its host is never reported. -/
def referenceHost : String := "example.com"

/-- The address that a text stands for. -/
def address? (value : String) : Option Address :=
  if isFull value then absolute? value
  else if isHostname value then hostAddress? value
  else (Address.parse? ("https://" ++ referenceHost)).bind (·.join? value)

def nonempty? (text : Option String) : Option String :=
  text.filter (!·.isEmpty)

/-- The details of an address; a text that is none has only itself as
its path. -/
def addressDetails (value : String) : UrlDetails :=
  match address? value with
  | some a =>
      let query := nonempty? a.query
      let fragment := nonempty? a.fragment
      { hostname := (a.host.map Web.Host.text).filter (· != referenceHost)
        port := a.port.map toString
        pathname := (nonempty? (some a.path)).filter (· != "/")
        queryParams := query
        hash := fragment
        isSecure := some (a.scheme == "https")
        hasParams := some query.isSome
        hasFragment := some fragment.isSome }
  | none => { pathname := some value }

/-- The details of a text, its confidence apart. -/
def details (s : Settings) (value : String) : UrlDetails :=
  { addressDetails value with
    isApi := some (isApi value)
    extension := if s.analysis.includeFileExtensions then extension? value else none }

/-- Keeps a confidence within 0 and 1. -/
def clamp (x : Float) : Float :=
  if x < 0 then 0 else if x > 1 then 1 else x

/-- The bonuses that a text earns, in the order in which they are
added. -/
def bonuses (s : Settings) (d : UrlDetails) (value : String) (site : Site) : List Float :=
  let h := s.heuristics
  let earned (b : Bool) (bonus : Float) : List Float := if b then [bonus] else []
  earned (d.isApi == some true) h.apiBonus
    ++ earned d.extension.isSome h.extensionBonus
    ++ earned (d.hasParams == some true) h.queryBonus
    ++ earned (namesMediaType value) h.mimeBonus
    ++ match site with
      | .plain => []
      | .property => [h.propertyBonus]
      | .call => [h.httpCallBonus]

/-- The kind and the details of a text found at a site. -/
def classify (s : Settings) (value : String) (site : Site) : Classification :=
  let (kind, base) := kindOf value
  let d := details s value
  let confidence := clamp ((bonuses s d value site).foldl (· + ·) base)
  { kind, details := { d with confidence } }

end ScriptScout.Url
