import ScriptScout.Analysis.State
import ScriptScout.Graphql.Document
import ScriptScout.Graphql.Plausible
import ScriptScout.Json.Reader

/-!
# Queries and schemas in scripts

Finds query texts in string and template literals, in tagged
templates, and in compiled documents, which come as an object or as
JSON text. A template counts by its own text, without its
substitutions, and is reported with them.

The template of a tagged one is never reported by itself: the tagged
expression is visited first and marks it.
-/

namespace ScriptScout.GraphqlText

open Graphql

/-- Reports a value under a span that has none yet. -/
def report (scene : Scene) (span : Span) (value : String) (s : State) :
    State × List (Finding GraphqlKind) :=
  if s.isMarked .graphql span then (s, [])
  else (s.mark .graphql span, [scene.finding span value (kindOf value)])

def isPlausibleHere (scene : Scene) (value : String) : Bool :=
  isPlausible scene.settings.heuristics value

/-- The text of a template without its backticks. -/
def templateBody (text : String) : String :=
  let cs := text.toList
  let cs := (Text.afterLead? ['\x60'] cs).getD cs
  String.ofList (if cs.getLast? == some '\x60' then cs.dropLast else cs)

/-- The text of a template without its substitutions. -/
def ownText (quasis : List Quasi) : String :=
  String.join (quasis.map (·.raw))

def tagNames : List String := ["gql", "graphql", "GraphQL"]

/-- The name of a tag; a tag that is no identifier goes by its text. -/
def tagName (scene : Scene) (tag : Node) : String :=
  tag.identifier?.getD (scene.text tag.span)

/-- The document in the text that a call decodes. -/
def decodedDocument? (callee : Node) (arguments : List Node) : Option (Span × String) := do
  guard (callee.isMemberOf "JSON" "parse")
  let argument ← arguments.head?
  let document ← Json.parse (← argument.string?)
  return (argument.span, ← rebuild? document)

/-- The text of an object that is a compiled document. -/
def objectDocument? (n : Node) : Option String :=
  if isDocumentObject n then
    some (((literalJson? n).bind rebuild?).getD genericDocument)
  else none

/-- Looks at one node. -/
def step (scene : Scene) (n : Node) (s : State) : State × List (Finding GraphqlKind) :=
  match n with
  | .literal span (.string value) =>
      if isPlausibleHere scene value && startsWithKeyword value then report scene span value s
      else (s, [])
  | .template span quasis _ =>
      let text := ownText quasis
      if !s.isMarked .graphqlTemplates span && isPlausibleHere scene text
          && startsWithKeyword text then
        report scene span (templateBody (scene.text span)) (s.mark .graphqlTemplates span)
      else (s, [])
  | .tagged span tag template =>
      let s := s.mark .graphqlTemplates template.span
      match template with
      | .template inner quasis _ =>
          if tagNames.contains (tagName scene tag) && isPlausibleHere scene (ownText quasis) then
            report scene span (templateBody (scene.text inner)) s
          else (s, [])
      | _ => (s, [])
  | .call _ callee arguments =>
      match decodedDocument? callee arguments with
      | some (span, text) =>
          if isPlausibleHere scene text then report scene span text s else (s, [])
      | none => (s, [])
  | .object span _ =>
      match objectDocument? n with
      | some text => if isPlausibleHere scene text then report scene span text s else (s, [])
      | none => (s, [])
  | _ => (s, [])

end ScriptScout.GraphqlText
