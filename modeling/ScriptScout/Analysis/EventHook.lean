import ScriptScout.Analysis.State

/-!
# Events and navigation

Finds listeners, handlers of messages and of changes of the fragment,
windows that are opened, and uses of the page's location. The target
of a write to the location is not reported as a read as well: the
assignment is visited before its target and marks it.
-/

namespace ScriptScout.EventHook

/-- Parts of the location whose own parts are still a target. -/
def locationParts : List String := ["href", "hash", "pathname", "search"]

/-- Parts of the location that are worth reporting when read. -/
def locationReads : List String := locationParts ++ ["replace", "assign"]

/-- Does an assignment to the node move the page? -/
def isLocationTarget (target : Node) : Bool :=
  target.isMemberOf "window" "location" || target.isMemberOf "document" "location"
    || match target.member? with
      | some (receiver, _) =>
          receiver.isIdentifier "location" || receiver.isMemberOf "window" "location"
            || receiver.member?.any fun (inner, part) =>
                inner.isIdentifier "location" && locationParts.contains part
      | none => false

def callKind? (callee : Node) : Option EventKind :=
  if callee.memberName? == some "addEventListener" then some .listener
  else if callee.isMemberOf "window" "open" || callee.isIdentifier "open" then
    some .windowOpen
  else none

def assignmentKind? (target : Node) : Option EventKind :=
  if target.memberName? == some "onmessage" then some .onMessage
  else if target.memberName? == some "onhashchange" then some .onHashChange
  else if isLocationTarget target then some .location
  else none

/-- Is the node a part of the location that is worth reporting? -/
def isLocationRead (n : Node) : Bool :=
  n.member?.any fun (receiver, name) =>
    receiver.isIdentifier "location" && locationReads.contains name

def report (scene : Scene) (n : Node) (kind : EventKind) : Finding EventKind :=
  scene.finding n.span (scene.text n.span) kind

/-- Looks at one node. -/
def step (scene : Scene) (n : Node) (s : State) : State × List (Finding EventKind) :=
  match n with
  | .call span callee _ =>
      if s.isMarked .events span then (s, [])
      else (s.mark .events span, ((callKind? callee).map (report scene n)).toList)
  | .assignment span _ target _ =>
      if s.isMarked .events span then (s, [])
      else
        let s := s.mark .events span
        match assignmentKind? target with
        | some .location =>
            (s.mark .locationWrites target.span, [report scene n .location])
        | some kind => (s, [report scene n kind])
        | none => (s, [])
  | .member span .. =>
      if isLocationRead n && !s.isMarked .locationWrites span && !s.isMarked .events span then
        (s.mark .events span, [report scene n .location])
      else (s, [])
  | _ => (s, [])

end ScriptScout.EventHook
