import ScriptScout.Analysis.State
import ScriptScout.Text.Upper

/-!
# Requests

Finds calls that make requests: `fetch`, `axios`, the methods of
jQuery, and requests that are built by hand. Method and address are
given only if they are literals at the call.

`recognize?` looks at the call alone; `step` lets each span speak
once.
-/

namespace ScriptScout.HttpCall

def axiosMethods : List String :=
  ["get", "post", "put", "delete", "patch", "head", "options", "request"]

def jqueryMethods : List String := ["ajax", "get", "post", "put", "delete"]

/-- The methods that a request can be opened with. -/
def verbs : List String :=
  ["GET", "POST", "PUT", "DELETE", "PATCH", "HEAD", "OPTIONS"]

/-! ## Details of a call -/

/-- What the arguments of a call tell. -/
structure Details where
  method : Option String := none
  url : Option String := none
  options : Option (List String) := none
  deriving Repr, DecidableEq, Inhabited

namespace Details

/-- The method that an object of options gives. -/
def methodIn (options : Node) : Option String :=
  let value := (options.lookup? "method").or (options.lookup? "type")
  (value.bind Node.string?).map Text.upper

/-- Adds what an object of options tells; what is known already
stays. -/
def merge (d : Details) (options : Node) : Details :=
  match options with
  | .object _ properties =>
      let keys := properties.filterMap Node.propertyKey?
      { url := d.url.or ((options.lookup? "url").bind Node.string?)
        method := d.method.or (methodIn options)
        options := if keys.isEmpty then d.options else some keys }
  | _ => d

def mergeOption (d : Details) : Option Node → Details
  | some options => d.merge options
  | none => d

end Details

def isObject : Node → Bool
  | .object .. => true
  | _ => false

def literalAt (arguments : List Node) (i : Nat) : Option String :=
  arguments[i]?.bind Node.string?

/-- The details of a call with an address, with options, or with
both. -/
def configured : List Node → Details
  | [] => {}
  | first :: rest =>
      if isObject first then Details.merge {} first
      else Details.mergeOption { url := first.string? } rest.head?

/-- The details of a call whose name gives the method. Of the arguments
after the address the last object holds the options. -/
def named (method : String) (arguments : List Node) : Details :=
  Details.mergeOption { url := literalAt arguments 0, method := some (Text.upper method) }
    ((arguments.drop 1).reverse.find? isObject)

/-! ## Recognition -/

def ofName? (name : String) (arguments : List Node) : Option (HttpKind × Details) :=
  if name == "fetch" then
    some (.fetch, Details.mergeOption { url := literalAt arguments 0 } arguments[1]?)
  else if name == "axios" then some (.axios, configured arguments)
  else none

def ofMember? (receiver : Node) (method : String) (arguments : List Node) :
    Option (HttpKind × Details) :=
  let isJquery := receiver.isIdentifier "$" || receiver.isIdentifier "jQuery"
  let plain (m : String) : Details := { url := literalAt arguments 0, method := some m }
  if receiver.isIdentifier "axios" && axiosMethods.contains method then
    some (.axios, if method == "request" then configured arguments else named method arguments)
  else if isJquery && jqueryMethods.contains method then
    some (.jquery, if method == "ajax" then configured arguments else plain (Text.upper method))
  else if method == "load" then some (.jquery, plain "GET")
  else if method == "open" && !receiver.isIdentifier "window" then do
    let verb ← (literalAt arguments 0).map Text.upper
    guard (verbs.contains verb)
    return (.method, { url := literalAt arguments 1, method := some verb })
  else none

def classify? : Node → Option (HttpKind × Details)
  | .call _ callee arguments =>
      match callee.identifier? with
      | some name => ofName? name arguments
      | none =>
          match callee.member? with
          | some (receiver, method) => ofMember? receiver method arguments
          | none => none
  | .construct _ callee _ =>
      if callee.isIdentifier "XMLHttpRequest" then some (.xhr, {}) else none
  | _ => none

/-- The request that a node makes, if it makes one. -/
def recognize? (scene : Scene) (n : Node) : Option HttpFinding :=
  (classify? n).map fun (kind, d) =>
    { scene.finding n.span (scene.text n.span) kind with
      method := d.method, url := d.url, options := d.options }

/-- Can the node make a request? -/
def isCandidate : Node → Bool
  | .call .. | .construct .. => true
  | _ => false

/-- Looks at one node. -/
def step (scene : Scene) (n : Node) (s : State) : State × List HttpFinding :=
  if isCandidate n && !s.isMarked .httpCalls n.span then
    (s.mark .httpCalls n.span, (recognize? scene n).toList)
  else (s, [])

end ScriptScout.HttpCall
