import ScriptScout.Analysis.State
import ScriptScout.Text.Basic
import ScriptScout.Text.Word

/-!
# Sinks

Finds the places where a script turns text into markup or code:
`eval`, writing to the document, assigning markup or the domain,
posting messages, and the attribute that sets markup unchecked. Texts
that look like documentation or like other interfaces are left out.

`recognize?` looks at the node alone; `step` lets each span speak
once.
-/

namespace ScriptScout.Sink

/-- The attribute that sets markup unchecked. -/
def uncheckedMarkup : String := "dangerouslySetInnerHTML"

/-! ## False alarms -/

/-- Does `eval` stand inside a longer word? `before` is the character
before the text. -/
def evalInWord (before : Option Char) : List Char → Bool
  | [] => false
  | c :: cs =>
      (before.any Text.isWord && Text.fold ((c :: cs).take 4) == "eval".toList
        && ((c :: cs).drop 4).head?.any Text.isWord)
        || evalInWord (some c) cs

/-- Does a call of `eval` stand somewhere in the text? -/
def callsEval (before : Option Char) : List Char → Bool
  | [] => false
  | c :: cs =>
      (!before.any Text.isWord && "eval".toList.isPrefixOf (c :: cs)
        && (((c :: cs).drop 4).dropWhile Text.isBlank).head? == some '(')
        || callsEval (some c) cs

/-- Is the text of a sink documentation or some other interface? -/
def isFalseAlarm (kind : SinkKind) (text : List Char) : Bool :=
  let has (word : String) := Text.contains word.toList text
  ["//", "/*", "*/", "Test ", "Example:"].any has
    || match kind with
      | .eval => evalInWord none text && !callsEval none text
      | .innerHtml => has "\"innerHTML\"" || has "'innerHTML'"
      | .write => ["file.write", "stream.write", "fs.write", "console.write"].any has
      | _ => false

/-! ## Recognition -/

def isMember : Node → Bool
  | .member .. => true
  | _ => false

/-- Is the argument an object that sets markup unchecked? -/
def setsMarkup : Node → Bool
  | .object _ properties => properties.any (·.propertyKey? == some uncheckedMarkup)
  | _ => false

def callKind? (scene : Scene) (span : Span) (callee : Node) (arguments : List Node) :
    Option SinkKind :=
  let member := callee.member?
  if callee.isIdentifier "eval" then some .eval
  else if member.any fun (receiver, method) =>
      receiver.isIdentifier "document" && (method == "write" || method == "writeln") then
    some .write
  else if member.any (·.2 == "postMessage") then some .postMessage
  else if (isMember callee || arguments.any setsMarkup)
      && Text.contains uncheckedMarkup.toList (scene.text span).toList then
    some .dangerousHtml
  else none

def assignmentKind? (target : Node) : Option SinkKind :=
  if target.memberName? == some "innerHTML" then some .innerHtml
  else if target.isMemberOf "document" "domain" then some .domain
  else none

def kind? (scene : Scene) : Node → Option SinkKind
  | .call span callee arguments => callKind? scene span callee arguments
  | .assignment _ _ target _ => assignmentKind? target
  | .jsxAttribute _ name _ => if name == uncheckedMarkup then some .dangerousHtml else none
  | _ => none

/-- Can the node be a sink? -/
def isCandidate : Node → Bool
  | .call .. | .assignment .. => true
  | .jsxAttribute _ name _ => name == uncheckedMarkup
  | _ => false

/-- The sink that a node is, if it is one. -/
def recognize? (scene : Scene) (n : Node) : Option (Finding SinkKind) := do
  let kind ← kind? scene n
  let text := scene.text n.span
  guard !(isFalseAlarm kind text.toList)
  return scene.finding n.span text kind

/-- Looks at one node. -/
def step (scene : Scene) (n : Node) (s : State) : State × List (Finding SinkKind) :=
  if isCandidate n && !s.isMarked .domSinks n.span then
    (s.mark .domSinks n.span, (recognize? scene n).toList)
  else (s, [])

end ScriptScout.Sink
