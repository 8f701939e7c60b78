import ScriptScout.Json.Record

/-!
# Settings

What a user can set: how an analysis goes about its work, the
thresholds and bonuses that it judges by, which detectors run, which
paths are passed over, and how results are shown. Every setting has a
default.
-/

namespace ScriptScout

/-- Options that shape a run. -/
structure AnalysisSettings where
  /-- Addresses below this confidence are dropped. -/
  confidenceThreshold : Float := 0.5
  /-- Nodes below this depth are not visited. -/
  maxTraversalDepth : Nat := 200
  minPathLength : Nat := 3
  maxPathLength : Nat := 2000
  includeRelativePaths : Bool := true
  includeFileExtensions : Bool := true
  excludeCommonWords : Bool := true
  enableVariableTracking : Bool := true
  enableObjectPropertyAnalysis : Bool := true
  enableDeepTraversal : Bool := true
  /-- Analyse texts with syntax errors as well. -/
  allowPartialParse : Bool := false
  deriving Repr, Inhabited

/-- Thresholds and bonuses. -/
structure HeuristicSettings where
  /-- Texts with this many bits per character or more are taken for
  tokens. -/
  entropyThreshold : Float := 4.9
  schemaKeywordLimit : Nat := 2
  graphqlMinLength : Nat := 15
  schemaMinLength : Nat := 20
  selectionMinLength : Nat := 3
  apiBonus : Float := 0.1
  extensionBonus : Float := 0.1
  queryBonus : Float := 0.05
  mimeBonus : Float := 0.15
  propertyBonus : Float := 0.1
  httpCallBonus : Float := 0.1
  deriving Repr, Inhabited

/-- Which detectors run. -/
structure ModuleSettings where
  urls : Bool := true
  graphql : Bool := true
  domSinks : Bool := true
  events : Bool := true
  httpCalls : Bool := true
  deriving Repr, DecidableEq, Inhabited

structure IgnoreSettings where
  /-- Patterns of paths that a search for scripts passes over. -/
  paths : List String :=
    ["node_modules/", ".git/", "target/", "coverage/", ".next/cache/"]
  deriving Repr, DecidableEq, Inhabited

structure OutputSettings where
  format : String := "json"
  pretty : Bool := true
  deriving Repr, DecidableEq, Inhabited

structure Settings where
  analysis : AnalysisSettings := {}
  heuristics : HeuristicSettings := {}
  modules : ModuleSettings := {}
  ignore : IgnoreSettings := {}
  output : OutputSettings := {}
  deriving Repr, Inhabited

/-- The depth bound when deep traversal is off. -/
def shallowDepth : Nat := 10

/-- The depth to which a walk goes. -/
def AnalysisSettings.effectiveDepth (s : AnalysisSettings) : Nat :=
  if s.enableDeepTraversal then s.maxTraversalDepth
  else min s.maxTraversalDepth shallowDepth

/-! ## Settings as data -/

namespace Settings

open Json (Codec)

def analysisFields : List (Json.Field AnalysisSettings) := [
  .ofDefault "confidence_threshold" .real (·.confidenceThreshold)
    fun a s => { s with confidenceThreshold := a },
  .ofDefault "max_traversal_depth" .nat (·.maxTraversalDepth)
    fun a s => { s with maxTraversalDepth := a },
  .ofDefault "min_path_length" .nat (·.minPathLength)
    fun a s => { s with minPathLength := a },
  .ofDefault "max_path_length" .nat (·.maxPathLength)
    fun a s => { s with maxPathLength := a },
  .ofDefault "include_relative_paths" .bool (·.includeRelativePaths)
    fun a s => { s with includeRelativePaths := a },
  .ofDefault "include_file_extensions" .bool (·.includeFileExtensions)
    fun a s => { s with includeFileExtensions := a },
  .ofDefault "exclude_common_words" .bool (·.excludeCommonWords)
    fun a s => { s with excludeCommonWords := a },
  .ofDefault "enable_variable_tracking" .bool (·.enableVariableTracking)
    fun a s => { s with enableVariableTracking := a },
  .ofDefault "enable_object_property_analysis" .bool (·.enableObjectPropertyAnalysis)
    fun a s => { s with enableObjectPropertyAnalysis := a },
  .ofDefault "enable_deep_traversal" .bool (·.enableDeepTraversal)
    fun a s => { s with enableDeepTraversal := a },
  .ofDefault "allow_partial_parse" .bool (·.allowPartialParse)
    fun a s => { s with allowPartialParse := a }]

def heuristicFields : List (Json.Field HeuristicSettings) := [
  .ofDefault "entropy_threshold" .real (·.entropyThreshold)
    fun a s => { s with entropyThreshold := a },
  .ofDefault "schema_keyword_limit" .nat (·.schemaKeywordLimit)
    fun a s => { s with schemaKeywordLimit := a },
  .ofDefault "graphql_min_length" .nat (·.graphqlMinLength)
    fun a s => { s with graphqlMinLength := a },
  .ofDefault "schema_min_length" .nat (·.schemaMinLength)
    fun a s => { s with schemaMinLength := a },
  .ofDefault "selection_min_length" .nat (·.selectionMinLength)
    fun a s => { s with selectionMinLength := a },
  .ofDefault "api_bonus" .real (·.apiBonus)
    fun a s => { s with apiBonus := a },
  .ofDefault "extension_bonus" .real (·.extensionBonus)
    fun a s => { s with extensionBonus := a },
  .ofDefault "query_bonus" .real (·.queryBonus)
    fun a s => { s with queryBonus := a },
  .ofDefault "mime_bonus" .real (·.mimeBonus)
    fun a s => { s with mimeBonus := a },
  .ofDefault "property_bonus" .real (·.propertyBonus)
    fun a s => { s with propertyBonus := a },
  .ofDefault "http_call_bonus" .real (·.httpCallBonus)
    fun a s => { s with httpCallBonus := a }]

def moduleFields : List (Json.Field ModuleSettings) := [
  .ofDefault "urls" .bool (·.urls) fun a s => { s with urls := a },
  .ofDefault "graphql" .bool (·.graphql) fun a s => { s with graphql := a },
  .ofDefault "domxss" .bool (·.domSinks) fun a s => { s with domSinks := a },
  .ofDefault "events" .bool (·.events) fun a s => { s with events := a },
  .ofDefault "httpapi" .bool (·.httpCalls) fun a s => { s with httpCalls := a }]

def ignoreFields : List (Json.Field IgnoreSettings) := [
  .ofDefault "paths" (.list .string) (·.paths) fun a s => { s with paths := a }]

def outputFields : List (Json.Field OutputSettings) := [
  .ofDefault "format" .string (·.format) fun a s => { s with format := a },
  .ofDefault "pretty" .bool (·.pretty) fun a s => { s with pretty := a }]

/-- The codec of settings. In a list of values those beyond the last
field are an error unless `surplus` allows them. -/
def codec (surplus : Bool) : Codec Settings :=
  .record surplus [
    .ofDefault "analysis" (.record surplus analysisFields {}) (·.analysis)
      fun a s => { s with analysis := a },
    .ofDefault "heuristics" (.record surplus heuristicFields {}) (·.heuristics)
      fun a s => { s with heuristics := a },
    .ofDefault "modules" (.record surplus moduleFields {}) (·.modules)
      fun a s => { s with modules := a },
    .ofDefault "ignore" (.record surplus ignoreFields {}) (·.ignore)
      fun a s => { s with ignore := a },
    .ofDefault "output" (.record surplus outputFields {}) (·.output)
      fun a s => { s with output := a }] {}

/-- All settings with their names. -/
def toJson (s : Settings) : Json := (codec false).write s

/-- Settings from data; what is not there has its default. -/
def ofJson? (j : Json) : Option Settings := (codec false).read j

end Settings

end ScriptScout
