import ScriptScout.Analysis.EventHook
import ScriptScout.Analysis.GraphqlText
import ScriptScout.Analysis.HttpCall
import ScriptScout.Analysis.Sink
import ScriptScout.Analysis.UrlUse
import ScriptScout.Files.Disk
import ScriptScout.Syntax.Reading
import ScriptScout.Walk

/-!
# Analysis

An analysis walks a tree once and shows every node to each detector
that is switched on. A detector looks at one node and its parts; what
has to be remembered between nodes is in the `State`.
-/

namespace ScriptScout

/-! ## Detectors -/

inductive Detector where
  | httpCalls
  | graphql
  | domSinks
  | urls
  | events
  deriving Repr, DecidableEq, Inhabited

namespace Detector

/-- All detectors, in the order in which they see a node. -/
def all : List Detector := [.httpCalls, .graphql, .domSinks, .urls, .events]

def name : Detector → String
  | httpCalls => "HTTP API"
  | graphql => "GraphQL"
  | domSinks => "DOM XSS"
  | urls => "URL & Endpoint"
  | events => "Event Handlers"

def isEnabled (m : ModuleSettings) : Detector → Bool
  | httpCalls => m.httpCalls
  | graphql => m.graphql
  | domSinks => m.domSinks
  | urls => m.urls
  | events => m.events

def enabled (m : ModuleSettings) : List Detector :=
  all.filter (·.isEnabled m)

/-- Shows a node to a detector. -/
def step (d : Detector) (scene : Scene) (n : Node) (s : State) : State × Findings :=
  match d with
  | httpCalls => (HttpCall.step scene n s).map id fun found => { httpCalls := found }
  | graphql => (GraphqlText.step scene n s).map id fun found => { graphql := found }
  | domSinks => (Sink.step scene n s).map id fun found => { domSinks := found }
  | urls => (UrlUse.step scene n s).map id fun found => { urls := found }
  | events => (EventHook.step scene n s).map id fun found => { events := found }

end Detector

/-! ## Runs -/

/-- The findings of two parts of a run, one after the other. -/
def Findings.append (f g : Findings) : Findings where
  urls := f.urls ++ g.urls
  graphql := f.graphql ++ g.graphql
  domSinks := f.domSinks ++ g.domSinks
  events := f.events ++ g.events
  httpCalls := f.httpCalls ++ g.httpCalls

namespace Analysis

/-- Shows one node to the detectors, in order. -/
def inspect (scene : Scene) (n : Node) : List Detector → State → State × Findings
  | [], s => (s, {})
  | d :: ds, s =>
      let (s, first) := d.step scene n s
      let (s, rest) := inspect scene n ds s
      (s, first.append rest)

/-- Shows the nodes to the detectors, in order. -/
def inspectAll (scene : Scene) (ds : List Detector) : List Node → State → State × Findings
  | [], s => (s, {})
  | n :: ns, s =>
      let (s, first) := inspect scene n ds s
      let (s, rest) := inspectAll scene ds ns s
      (s, first.append rest)

/-- The nodes that a run visits, in order. -/
def visited (settings : Settings) (root : Node) : List Node :=
  (root.visits settings.analysis.effectiveDepth).map (·.node)

/-- What a run finds in a tree. -/
def analyzeTree (settings : Settings) (source : String) (root : Node) : Findings :=
  let (s, found) := inspectAll (Scene.of source settings)
    (Detector.enabled settings.modules) (visited settings root) {}
  { found with urls := UrlUse.retract s found.urls }

/-- What a run finds in a text. Nothing is found in a text with syntax
errors, unless the settings allow for them. -/
def analyzeSource (settings : Settings) (d : Dialect) (source : String) : Findings :=
  match readScript? d source with
  | some root => analyzeTree settings source root
  | none =>
      if settings.analysis.allowPartialParse then
        analyzeTree settings source (readBroken d source).root
      else {}

/-- What a run finds in a file. -/
def analyzeFile (disk : Disk) (settings : Settings) (path : String) :
    Except FileError Findings := do
  let source ← disk.read path
  return analyzeSource settings (.ofPath path) source

/-- What is said of a file that could not be read. -/
def unreadable (path : String) (e : FileError) : String :=
  "Failed to read " ++ path ++ ": " ++ e.message

end Analysis

end ScriptScout
