/-!
# Globs

Patterns for relative paths. A glob works on the bytes of a path:

* `?` stands for one byte and `*` for any number of them, but neither
  for a slash;
* `**` stands for any number of directories where it fills the whole
  space between slashes;
* `[a-z]` stands for one byte of a class, and `[!a-z]` or `[^a-z]` for
  one that is not in it;
* `{a,b}` stands for either of its branches;
* a backslash takes the character behind it literally.

`Glob.parse?` reads the text of a glob into tokens and `Glob.fits`
says whether they fit the whole of a path.
-/

namespace ScriptScout

/-- A piece of a glob. -/
inductive GlobToken where
  | literal (c : Char)
  | anyByte
  | anyBytes
  /-- `**` at the front, with the slash behind it. -/
  | anyLead
  /-- `**` at the end, with the slash before it. -/
  | anyTail
  /-- `**` in between, with both slashes. -/
  | anyMiddle
  | oneOf (negated : Bool) (ranges : List (Char × Char))
  | choice (branches : List (List GlobToken))
  deriving Repr, Inhabited

structure Glob where
  tokens : List GlobToken
  deriving Repr, Inhabited

namespace Glob

/-! ## Classes -/

/-- The ranges of a class. A bracket directly after the opening one is
a member, and so is a dash at either end. `pending` says that a dash
is waiting for the end of its range; `ranges` has the last range
first. The outcome is `none` for a range that ends before it starts,
and has no rest if the class is not closed. -/
def classRanges (first pending : Bool) (ranges : List (Char × Char)) :
    List Char → Option (List (Char × Char) × Option (List Char))
  | [] => some ([], none)
  | c :: cs =>
      if c == ']' && !first then
        some ((if pending then ('-', '-') :: ranges else ranges).reverse, some cs)
      else if c == '-' && !first && !pending then classRanges false true ranges cs
      else if pending then
        match ranges with
        | (low, _) :: earlier =>
            if c < low then none else classRanges false false ((low, c) :: earlier) cs
        | [] => none
      else classRanges false false ((c, c) :: ranges) cs

/-- A class behind its opening bracket, and what follows it. -/
def class? (cs : List Char) : Option (GlobToken × Option (List Char)) :=
  let (negated, cs) := match cs with
    | '!' :: cs | '^' :: cs => (true, cs)
    | cs => (false, cs)
  (classRanges true false [] cs).map fun p => (.oneOf negated p.1, p.2)

/-! ## Reading a glob -/

/-- What was read so far. `branches` holds, innermost first, the tokens
of the branches under way, each with its last token first, and `groups`
the number of branches in front of each open brace. -/
structure Progress where
  branches : List (List GlobToken) := [[]]
  groups : List Nat := []
  /-- The character before the one that is being read. -/
  previous : Option Char := none
  /-- Are brackets plain characters from here on? -/
  plainBrackets : Bool := false

namespace Progress

def push (p : Progress) (t : GlobToken) : Progress :=
  match p.branches with
  | [] => p
  | branch :: branches => { p with branches := (t :: branch) :: branches }

/-- Two stars that are not alone between slashes are two stars. -/
def pushStars (p : Progress) : Progress :=
  (p.push .anyBytes).push .anyBytes

/-- Puts a token in the place of the last one, unless that already
stands for any directories at that end. -/
def absorb (p : Progress) (t : GlobToken) : Progress :=
  match p.branches with
  | (.anyLead :: _) :: _ | (.anyTail :: _) :: _ => p
  | (_ :: branch) :: branches => { p with branches := (t :: branch) :: branches }
  | _ => p

def inGroup (p : Progress) : Bool := !p.groups.isEmpty

def openGroup (p : Progress) : Progress :=
  { p with branches := [] :: p.branches, groups := p.branches.length :: p.groups }

/-- Closes the innermost group; there may be none. -/
def closeGroup? (p : Progress) : Option Progress :=
  match p.groups with
  | [] => none
  | outside :: groups =>
      let inside := p.branches.take (p.branches.length - outside)
      let p := { p with branches := p.branches.drop (p.branches.length - outside), groups }
      some (p.push (.choice (inside.reverse.map List.reverse)))

/-- Two stars, before `cs`; also how many of those characters belong to
them. -/
def doubleStar (p : Progress) (cs : List Char) : Progress × Nat :=
  let alone := p.previous == some '/'
    || p.inGroup && (p.previous == some ',' || p.previous == some '{')
  match p.branches with
  | [] :: _ =>
      match cs with
      | [] => (p.push .anyLead, 0)
      | '/' :: _ => (p.push .anyLead, 1)
      | _ => (p.pushStars, 0)
  | _ =>
      if !alone then (p.pushStars, 0)
      else
        match cs with
        | [] => (p.absorb .anyTail, 0)
        | '/' :: _ => (p.absorb .anyMiddle, 1)
        | c :: _ =>
            if p.inGroup && (c == ',' || c == '}') then (p.absorb .anyTail, 0)
            else (p.pushStars, 0)

end Progress

/-- Reads the rest of a glob. With `lenient`, a bracket that nothing
closes is a plain character; otherwise it makes the glob invalid. The
fuel is the number of characters. -/
def read (lenient : Bool) : Nat → Progress → List Char → Option Progress
  | 0, p, _ => some p
  | _, p, [] => some p
  | fuel + 1, p, c :: cs =>
      let next (p : Progress) (last : Char) (cs : List Char) :=
        read lenient fuel { p with previous := some last } cs
      match c with
      | '?' => next (p.push .anyByte) c cs
      | '*' =>
          match cs with
          | '*' :: cs =>
              let (q, used) := p.doubleStar cs
              next q (if used = 0 then '*' else '/') (cs.drop used)
          | _ => next (p.push .anyBytes) c cs
      | '[' =>
          if p.plainBrackets then next (p.push (.literal c)) c cs
          else
            match class? cs with
            | none => none
            | some (token, some rest) => next (p.push token) ']' rest
            | some (_, none) =>
                if lenient then next { p.push (.literal c) with plainBrackets := true } c cs
                else none
      | '{' => next p.openGroup c cs
      | '}' =>
          match p.closeGroup? with
          | some p => next p c cs
          | none => none
      | ',' =>
          if p.inGroup then next { p with branches := [] :: p.branches } c cs
          else next (p.push (.literal c)) c cs
      | '\\' =>
          match cs with
          | [] => none
          | c :: cs => next (p.push (.literal c)) c cs
      | c => next (p.push (.literal c)) c cs

/-- The glob that a text writes, if it writes one. -/
def parse? (lenient : Bool) (text : List Char) : Option Glob := do
  let p ← read lenient text.length {} text
  match p.branches with
  | [branch] => some ⟨branch.reverse⟩
  | _ => none

/-! ## Matching -/

def charBytes (c : Char) : List UInt8 := (String.singleton c).toUTF8.toList

def slash : UInt8 := 0x2F

/-- Is the byte one of those that a range of a class stands for? The
ends of a range are bytes themselves if they are ASCII; otherwise the
range runs from the last byte of one end to the first of the other, and
the remaining bytes of the ends belong to the class as well. -/
def inRange (b : UInt8) (range : Char × Char) : Bool :=
  let low := charBytes range.1
  let high := charBytes range.2
  if range.1 == range.2 then low.contains b
  else
    low.dropLast.contains b || high.tail.contains b
      || (low.getLast?.any (· ≤ b) && high.head?.any (b ≤ ·))

/-- What may be left when any number of bytes of a kind are taken off
the front. -/
def afterBytes (fits : UInt8 → Bool) : List UInt8 → List (List UInt8)
  | [] => [[]]
  | b :: bs => (b :: bs) :: (if fits b then afterBytes fits bs else [])

/-- What may be left behind a slash. -/
def afterSlashes : List UInt8 → List (List UInt8)
  | [] => []
  | b :: bs => (if b == slash then [bs] else []) ++ afterSlashes bs

mutual

/-- What may be left of a path when a token takes its part off the
front. -/
def rests (bs : List UInt8) : GlobToken → List (List UInt8)
  | .literal c => (bs.drop (charBytes c).length :: []).filter fun _ => (charBytes c).isPrefixOf bs
  | .anyByte =>
      match bs with
      | b :: bs => if b == slash then [] else [bs]
      | [] => []
  | .anyBytes => afterBytes (· != slash) bs
  | .anyLead => bs :: afterSlashes bs
  | .anyTail =>
      match bs with
      | b :: bs => if b == slash then afterBytes (fun _ => true) bs else []
      | [] => []
  | .anyMiddle =>
      match bs with
      | b :: bs => if b == slash then bs :: afterSlashes bs else []
      | [] => []
  | .oneOf negated ranges =>
      match bs with
      | b :: bs => if ranges.any (inRange b) != negated then [bs] else []
      | [] => []
  | .choice branches => if branches.all List.isEmpty then [bs] else restsAny bs branches

/-- What may be left when the tokens take their parts one after the
other. -/
def restsAll (remaining : List (List UInt8)) : List GlobToken → List (List UInt8)
  | [] => remaining
  | t :: ts => restsAll ((remaining.flatMap fun bs => rests bs t).eraseDups) ts

/-- What may be left behind any of the branches. An empty branch does
not count. -/
def restsAny (bs : List UInt8) : List (List GlobToken) → List (List UInt8)
  | [] => []
  | branch :: branches =>
      (if branch.isEmpty then [] else restsAll [bs] branch) ++ restsAny bs branches

end

/-- Does the glob fit the whole path? -/
def fits (g : Glob) (path : String) : Bool :=
  match g.tokens with
  | [.anyLead] => true
  | tokens => (restsAll [path.toUTF8.toList] tokens).any List.isEmpty

end Glob

end ScriptScout
