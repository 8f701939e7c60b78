import ScriptScout.Files.Disk
import ScriptScout.Files.Glob
import ScriptScout.Text.Basic

/-!
# Ignore rules

The rules by which files and directories are passed over, in the form
of a `.gitignore` file: one glob a line, of which the last that fits
decides.

Rules belong to the directory that holds them and see paths relative
to it. A directory contributes three lists, which form its `Scope`:
those of `.ignore`, those of `.gitignore` and those of
`.git/info/exclude`. The nearest scope with an opinion prevails, and
`.ignore` prevails over the other two. These count only inside a
repository, and only up to the directory where it starts.

All rules are on the disk that is searched. Rules that a user keeps for
all repositories, outside of any of them, are not read.
-/

namespace ScriptScout.Ignore

/-- What a rule says of a path. -/
inductive Verdict where
  | skip
  | keep
  deriving Repr, DecidableEq, Inhabited

structure Rule where
  verdict : Verdict
  /-- Is the rule for directories only? -/
  directories : Bool
  glob : Glob
  deriving Repr, Inhabited

namespace Rule

/-- The text of a glob as it stands in a rule: without a slash it fits
at any depth, and `/**` at its end fits what is in a directory but not
the directory itself. -/
def globText (anchored : Bool) (text : List Char) : List Char :=
  let text :=
    if anchored || text.contains '/' || text == ['*', '*'] then text
    else ['*', '*', '/'] ++ text
  if ['/', '*', '*'].isSuffixOf text then text ++ ['/', '*'] else text

/-- Takes off a slash at the end, which marks a rule for directories,
and a backslash before it. -/
def directoryMark (cs : List Char) : Bool × List Char :=
  match cs.reverse with
  | '/' :: '\\' :: rest => (true, rest.reverse)
  | '/' :: rest => (true, rest.reverse)
  | _ => (false, cs)

/-- The rule for a pattern, unless that holds no glob. -/
def ofPattern? (lenient : Bool) (verdict : Verdict) (anchored : Bool)
    (pattern : List Char) : Option Rule :=
  let (directories, text) := directoryMark pattern
  (Glob.parse? lenient (globText anchored text)).map fun glob =>
    { verdict, directories, glob }

/-- The rule for a pattern that a slash at the front may anchor. -/
def ofAnchorable? (lenient : Bool) (verdict : Verdict) : List Char → Option Rule
  | '/' :: cs => ofPattern? lenient verdict true cs
  | cs => ofPattern? lenient verdict false cs

/-- Takes blanks off the end, unless a backslash stands before the last
of them. -/
def trimLine (line : List Char) : List Char :=
  if ['\\', ' '].isSuffixOf line then line else Text.trimEnd line

/-- The rule of a line. Empty lines and comments hold none, and neither
do lines without a valid glob. -/
def ofLine? (line : List Char) : Option Rule :=
  match trimLine line with
  | [] => none
  | '#' :: _ => none
  | '\\' :: '!' :: cs => ofPattern? true .skip false ('!' :: cs)
  | '\\' :: '#' :: cs => ofPattern? true .skip false ('#' :: cs)
  | '!' :: cs => ofAnchorable? true .keep cs
  | cs => ofAnchorable? true .skip cs

/-- The rule that excludes what a pattern of the settings fits. A slash
at its end stands for everything inside a directory. -/
def exclusion? (pattern : String) : Option Rule :=
  let cs := pattern.toList
  let cs := if cs.getLast? == some '/' then cs ++ ['*', '*'] else cs
  ofAnchorable? false .skip (trimLine cs)

end Rule

/-- What the last rule that fits says of a path. -/
def judge (rules : List Rule) (path : String) (directory : Bool) : Option Verdict :=
  rules.reverse.findSome? fun r =>
    if (directory || !r.directories) && r.glob.fits path then some r.verdict else none

/-! ## Rules of a file -/

/-- The lines of a file without their ends, up to the first that is no
text. -/
def lines (contents : ByteArray) : List (List Char) :=
  let decoded := (contents.toList.splitOn 0x0A).map fun bs => String.fromUTF8? ⟨bs.toArray⟩
  ((decoded.takeWhile Option.isSome).filterMap id).map fun line =>
    match line.toList.reverse with
    | '\r' :: rest => rest.reverse
    | _ => line.toList

/-- The rules of a file. A mark for the order of bytes at its front
does not count. -/
def rulesOf (contents : ByteArray) : List Rule :=
  match lines contents with
  | [] => []
  | first :: rest => (first.dropWhile (· == '\ufeff') :: rest).filterMap Rule.ofLine?

/-! ## Scopes -/

/-- The rules of a directory, and the names that lead from it to the
directory whose members are in question. -/
structure Scope where
  general : List Rule
  repository : List Rule
  excluded : List Rule
  /-- Does a repository start here? -/
  starts : Bool
  below : List String
  deriving Inhabited

namespace Scope

def rulesAt (directory : Entry) (names : List String) : List Rule :=
  match directory.get? names with
  | some (.file contents) => rulesOf contents
  | _ => []

/-- The scope of a directory for its own members. -/
def ofDirectory (directory : Entry) : Scope where
  general := rulesAt directory [".ignore"]
  repository := rulesAt directory [".gitignore"]
  excluded := rulesAt directory [".git", "info", "exclude"]
  starts := (directory.member? ".git").isSome || (directory.member? ".jj").isSome
  below := []

/-- The scope for the members of a directory further down. -/
def descend (s : Scope) (name : String) : Scope :=
  { s with below := s.below ++ [name] }

/-- The path of a member as the rules of the scope see it. -/
def pathTo (s : Scope) (name : String) : String :=
  String.intercalate "/" (s.below ++ [name])

end Scope

/-- The scopes up to the one in which a repository starts. -/
def withinRepository : List Scope → List Scope
  | [] => []
  | s :: ss => if s.starts then [s] else s :: withinRepository ss

/-- What the rules of the scopes, nearest first, say of a member. -/
def verdict? (scopes : List Scope) (name : String) (directory : Bool) : Option Verdict :=
  let ask (rules : Scope → List Rule) (scopes : List Scope) :=
    scopes.findSome? fun s => judge (rules s) (s.pathTo name) directory
  let inside := if scopes.any Scope.starts then withinRepository scopes else []
  ask Scope.general scopes <|> ask Scope.repository inside <|> ask Scope.excluded inside

end ScriptScout.Ignore
