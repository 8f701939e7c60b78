import ScriptScout.Finding
import ScriptScout.Resolve
import ScriptScout.Settings
import ScriptScout.Text.Basic
import Std.Data.HashSet

/-!
# The scene and the state of a run

The scene is what a run works on and never changes: the source, its
line table and the settings. The state is what it remembers while it
walks a tree: the names bound so far, the spans that each category has
already dealt with, and the values that supersede shorter ones.
-/

namespace ScriptScout

/-! ## The scene -/

structure Scene where
  source : String
  settings : Settings
  lines : LineTable

namespace Scene

def of (source : String) (settings : Settings) : Scene :=
  ⟨source, settings, LineTable.ofText source⟩

def text (s : Scene) (span : Span) : String := span.text s.source

def position (s : Scene) (offset : Nat) : Position := s.lines.position offset

/-- A finding with a given value at the start of a span. -/
def finding {κ : Type} (s : Scene) (span : Span) (value : String) (kind : κ) : Finding κ where
  value
  position := s.position span.start
  kind
  span

end Scene

/-! ## The state -/

/-- A set of spans that grows. -/
structure SpanSet where
  spans : Std.HashSet Span := {}
  deriving Inhabited

namespace SpanSet

def contains (s : SpanSet) (span : Span) : Bool :=
  s.spans.contains span

def insert (s : SpanSet) (span : Span) : SpanSet :=
  ⟨s.spans.insert span⟩

def size (s : SpanSet) : Nat :=
  s.spans.size

end SpanSet

/-- What a span can be marked for: having been reported in one of the
five kinds of findings, being the template of a tagged one, or being
the target of a location write. -/
inductive Category where
  | urls
  | graphql
  | graphqlTemplates
  | domSinks
  | events
  | locationWrites
  | httpCalls
  deriving Repr, DecidableEq, Inhabited

def Category.all : List Category :=
  [.urls, .graphql, .graphqlTemplates, .domSinks, .events,
    .locationWrites, .httpCalls]

/-- One set of spans for each category; no two share spans. -/
structure Marks where
  urls : SpanSet := {}
  graphql : SpanSet := {}
  graphqlTemplates : SpanSet := {}
  domSinks : SpanSet := {}
  events : SpanSet := {}
  locationWrites : SpanSet := {}
  httpCalls : SpanSet := {}
  deriving Inhabited

namespace Marks

def get (m : Marks) : Category → SpanSet
  | .urls => m.urls
  | .graphql => m.graphql
  | .graphqlTemplates => m.graphqlTemplates
  | .domSinks => m.domSinks
  | .events => m.events
  | .locationWrites => m.locationWrites
  | .httpCalls => m.httpCalls

def mark (m : Marks) (c : Category) (span : Span) : Marks :=
  match c with
  | .urls => { m with urls := m.urls.insert span }
  | .graphql => { m with graphql := m.graphql.insert span }
  | .graphqlTemplates => { m with graphqlTemplates := m.graphqlTemplates.insert span }
  | .domSinks => { m with domSinks := m.domSinks.insert span }
  | .events => { m with events := m.events.insert span }
  | .locationWrites => { m with locationWrites := m.locationWrites.insert span }
  | .httpCalls => { m with httpCalls := m.httpCalls.insert span }

end Marks

/-- The state of a run. `superseding` holds each value once, in the
order in which they came. -/
structure State where
  bindings : Bindings := {}
  marks : Marks := {}
  superseding : List String := []
  deriving Inhabited

namespace State

def isMarked (s : State) (c : Category) (span : Span) : Bool :=
  (s.marks.get c).contains span

def mark (s : State) (c : Category) (span : Span) : State :=
  { s with marks := s.marks.mark c span }

def bind (s : State) (name value : String) : State :=
  { s with bindings := s.bindings.bind name value }

/-- Remembers a value that supersedes the shorter ones inside it. -/
def supersede (s : State) (value : String) : State :=
  if s.superseding.contains value then s
  else { s with superseding := s.superseding ++ [value] }

/-- Does the value stand inside a longer superseding value? -/
def isSuperseded (s : State) (value : String) : Bool :=
  s.superseding.any fun full =>
    full.utf8ByteSize > value.utf8ByteSize && Text.contains value.toList full.toList

end State

end ScriptScout
