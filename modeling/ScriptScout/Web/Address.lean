import ScriptScout.Web.Host

/-!
# Web addresses

An address has a scheme, and behind it a host with a port, a path, a
query and a fragment. `Address.parse?` reads one as browsers do, with
all their leniency: backslashes count as slashes in web addresses,
missing and surplus slashes are mended, dot segments are resolved, and
what may not stand somewhere is percent-encoded. `Address.join?` reads
a reference relative to another address.
-/

namespace ScriptScout.Web

structure Address where
  scheme : String
  host : Option Host := none
  port : Option Nat := none
  path : String := ""
  query : Option String := none
  fragment : Option String := none
  deriving Repr, DecidableEq, Inhabited

namespace Address

/-! ## Schemes -/

/-- The schemes whose addresses are read in the web's lenient way. -/
inductive SchemeKind where
  | web
  | file
  | other
  deriving Repr, DecidableEq, Inhabited

def SchemeKind.of (scheme : String) : SchemeKind :=
  if ["http", "https", "ws", "wss", "ftp"].contains scheme then .web
  else if scheme == "file" then .file
  else .other

def SchemeKind.isSpecial (k : SchemeKind) : Bool := k != .other

def defaultPort? : String → Option Nat
  | "http" | "ws" => some 80
  | "https" | "wss" => some 443
  | "ftp" => some 21
  | _ => none

def isSlash (k : SchemeKind) (c : Char) : Bool :=
  c == '/' || (c == '\\' && k.isSpecial)

/-- Does the character end the authority? -/
def endsAuthority (k : SchemeKind) (c : Char) : Bool :=
  isSlash k c || c == '?' || c == '#'

/-- The scheme that a text starts with, and what follows its colon. -/
def scheme? (cs : List Char) : Option (String × List Char) :=
  let name := cs.takeWhile fun c => c.isAlphanum || c == '+' || c == '-' || c == '.'
  match name, cs.drop name.length with
  | c :: _, ':' :: rest =>
      if c.isAlpha then some (String.ofList (name.map Char.toLower), rest) else none
  | _, _ => none

/-- The characters of an address that count: blanks and control
characters at the ends and line breaks and tabs anywhere do not. -/
def significant (text : String) : List Char :=
  let dropBlanks (cs : List Char) := cs.dropWhile (·.toNat ≤ 0x20)
  let cs := (dropBlanks (dropBlanks text.toList).reverse).reverse
  cs.filter fun c => c != '\t' && c != '\n' && c != '\r'

/-! ## Query and fragment -/

/-- Reads what may follow a path. -/
def withTail (a : Address) (cs : List Char) : Address :=
  let (front, fragment) :=
    match Text.splitFirst? '#' cs with
    | some (front, rest) =>
        (front, some (String.ofList (Percent.encode Percent.inFragment rest)))
    | none => (cs, none)
  let set := if (SchemeKind.of a.scheme).isSpecial then Percent.inWebQuery else Percent.inQuery
  let query :=
    match front with
    | '?' :: rest => some (String.ofList (Percent.encode set rest))
    | _ => none
  { a with query, fragment }

/-! ## Paths -/

/-- A segment with its escaped points written out. -/
def plainDots : List Char → List Char
  | '%' :: '2' :: c :: rest =>
      if c == 'e' || c == 'E' then '.' :: plainDots rest
      else '%' :: '2' :: c :: plainDots rest
  | c :: rest => c :: plainDots rest
  | [] => []

/-- A letter with a colon or a bar, which names a disk. -/
def isDrive : List Char → Bool
  | [letter, mark] => letter.isAlpha && (mark == ':' || mark == '|')
  | _ => false

/-- Removes the last segment, unless it names a disk. The segments
come last first. -/
def popSegment : List (List Char) → List (List Char)
  | [] => []
  | last :: rest => if isDrive last then last :: rest else rest

/-- Adds a segment to a path, whose segments come last first. `more`
says whether a slash follows. -/
def pushSegment (k : SchemeKind) (done : List (List Char)) (more : Bool)
    (segment : List Char) : List (List Char) :=
  let dots := plainDots segment
  if dots == ['.', '.'] then
    if more then popSegment done else [] :: popSegment done
  else if dots == ['.'] then
    if more then done else [] :: done
  else
    match k, done, segment with
    | .file, [], [letter, '|'] =>
        if isDrive segment then [[letter, ':']] else [segment]
    | _, _, _ => segment :: done

/-- Reads segments up to a query, a fragment or the end, and gives
back what follows them. `segment` holds the characters of the current
one, last first. -/
def segmentsFrom (k : SchemeKind) (done : List (List Char)) (segment : List Char) :
    List Char → List (List Char) × List Char
  | [] => (pushSegment k done false segment.reverse, [])
  | c :: cs =>
      if isSlash k c then
        segmentsFrom k (pushSegment k done true segment.reverse) [] cs
      else if c == '?' || c == '#' then
        (pushSegment k done false segment.reverse, c :: cs)
      else
        segmentsFrom k done ((Percent.encode Percent.inPath [c]).reverse ++ segment) cs

/-- The path of segments that come last first. In the path of a file
leading slashes are one. -/
def pathText (k : SchemeKind) (segments : List (List Char)) : String :=
  let text := List.intercalate ['/'] segments.reverse
  let text := if k == .file then text.dropWhile (· == '/') else text
  String.ofList ('/' :: text)

/-- Reads the path after its first slash, under the segments `done`,
and what follows it. -/
def withPath (a : Address) (done : List (List Char)) (cs : List Char) : Address :=
  let k := SchemeKind.of a.scheme
  let (segments, rest) := segmentsFrom k done [] cs
  { a with path := pathText k segments }.withTail rest

/-- Removes the slash that a path starts with. -/
def afterSlash (k : SchemeKind) : List Char → List Char
  | c :: cs => if isSlash k c then cs else c :: cs
  | [] => []

/-- Reads the path and what follows it behind an authority. Outside
the web a path may be missing. -/
def withPathStart (a : Address) (cs : List Char) : Address :=
  let k := SchemeKind.of a.scheme
  if k.isSpecial then a.withPath [] (afterSlash k cs)
  else
    match cs with
    | [] => a
    | c :: _ =>
        if c == '?' || c == '#' then a.withTail cs else a.withPath [] (afterSlash k cs)

/-! ## Authority -/

/-- The name of a user, which an at sign follows, and the rest. -/
def splitUser (k : SchemeKind) (cs : List Char) : Option (List Char) × List Char :=
  let authority := cs.takeWhile (!endsAuthority k ·)
  match Text.splitLast? '@' authority with
  | some (user, host) => (some user, host ++ cs.drop authority.length)
  | none => (none, cs)

/-- The length of the host that a text starts with: up to a colon
outside brackets, or the end of the authority. -/
def hostLength (k : SchemeKind) (bracket : Bool) : List Char → Nat
  | [] => 0
  | c :: cs =>
      if (c == ':' && !bracket) || endsAuthority k c then 0
      else 1 + hostLength k (if c == '[' then true else if c == ']' then false else bracket) cs

/-- The port behind a colon: none if it is empty or the usual one of
the scheme. The outer option fails on a port that is no number or too
large. -/
def port? (scheme : String) (cs : List Char) : Option (Option Nat × List Char) := do
  let digits := cs.takeWhile Char.isDigit
  let rest := cs.drop digits.length
  guard (rest.head?.all fun c => c == '/' || c == '\\' || c == '?' || c == '#')
  if digits.isEmpty then return (none, rest)
  let n ← Text.numeral? 10 65536 digits
  return (if defaultPort? scheme == some n then none else some n, rest)

/-- Reads an address from behind the two slashes on. -/
def authority? (scheme : String) (cs : List Char) : Option Address := do
  let k := SchemeKind.of scheme
  let (user, rest) := splitUser k cs
  guard !(user == some [] && rest.head?.any (endsAuthority k))
  let size := hostLength k false rest
  let (name, rest) := (rest.take size, rest.drop size)
  let host ←
    if name.isEmpty then
      if k.isSpecial || rest.head? == some ':' then none else pure none
    else (if k.isSpecial then Host.parse? name else Host.parseOpaque? name).map some
  guard !(host.isNone && user.any fun u => u != [] && u != [':'])
  let (port, rest) ←
    match rest with
    | ':' :: rest => port? scheme rest
    | _ => pure (none, rest)
  return { scheme, host, port : Address }.withPathStart rest

/-! ## Files -/

/-- Reads a file's address from behind the colon on. A host may stand
behind two slashes; the local one goes without saying, and so does that
of a path that names a disk. -/
def file? (cs : List Char) : Option Address :=
  let k := SchemeKind.file
  match cs with
  | a :: b :: rest =>
      if isSlash k a && isSlash k b then
        let name := rest.takeWhile (!endsAuthority k ·)
        if isDrive name then some ({ scheme := "file" : Address }.withPath [] rest)
        else do
          let host ← if name.isEmpty then pure none else (Host.parse? name).map some
          let host := if host == some (.domain "localhost") then none else host
          let path := afterSlash k (rest.drop name.length)
          let drive := isDrive (path.takeWhile (!endsAuthority k ·))
          return { scheme := "file", host := if drive then none else host : Address
            }.withPath [] path
      else some ({ scheme := "file" : Address }.withPath [] (afterSlash k cs))
  | _ => some ({ scheme := "file" : Address }.withPath [] (afterSlash k cs))

/-! ## Whole addresses -/

/-- Reads an address outside the web from behind the colon on. Without
a slash its path is any text. -/
def other? (scheme : String) (cs : List Char) : Option Address :=
  match cs with
  | '/' :: '/' :: rest => authority? scheme rest
  | '/' :: rest => some ({ scheme : Address }.withPath [] rest)
  | _ =>
      let text := cs.takeWhile fun c => c != '?' && c != '#'
      let path := String.ofList (Percent.encode Percent.isControl text)
      some ({ scheme, path : Address }.withTail (cs.drop text.length))

/-- Reads an address from behind the colon of its scheme on. -/
def withScheme? (scheme : String) (cs : List Char) : Option Address :=
  match SchemeKind.of scheme with
  | .web => authority? scheme (cs.dropWhile (isSlash .web))
  | .file => file? cs
  | .other => other? scheme cs

/-- Reads an address that has a scheme. -/
def parse? (text : String) : Option Address := do
  let (scheme, rest) ← scheme? (significant text)
  withScheme? scheme rest

/-- The segments of a path without the last one, last first. -/
def directory (path : String) : List (List Char) :=
  ((Text.splitOn '/' (path.toList.drop 1)).dropLast).reverse

/-- Reads a reference without a scheme relative to a web address. -/
def relative? (base : Address) (cs : List Char) : Option Address :=
  let k := SchemeKind.web
  match cs with
  | [] => some { base with fragment := none }
  | '?' :: _ => some ({ base with fragment := none }.withTail cs)
  | '#' :: _ => some { base.withTail cs with query := base.query }
  | c :: rest =>
      if isSlash k c then
        if rest.head?.any (isSlash k) then
          match c, rest with
          | '/', '/' :: after => authority? base.scheme after
          | _, _ => authority? base.scheme (cs.dropWhile (isSlash k))
        else some (base.withPath [] rest)
      else some (base.withPath (directory base.path) cs)

/-- Reads a reference relative to a web address. A reference with the
scheme of the base counts as relative unless two slashes follow. -/
def join? (base : Address) (text : String) : Option Address :=
  let cs := significant text
  match scheme? cs with
  | none => relative? base cs
  | some (scheme, rest) =>
      if scheme == base.scheme && (rest.takeWhile (isSlash .web)).length < 2 then
        relative? base rest
      else withScheme? scheme rest

end Address

end ScriptScout.Web
