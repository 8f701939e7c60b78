import ScriptScout.Files.Path

/-!
# Dialects

The three dialects of the language, and how the name of a file decides
between them.
-/

namespace ScriptScout

/-- Plain scripts (with markup), typed scripts, and typed scripts with
markup. -/
inductive Dialect where
  | plain
  | typed
  | typedMarkup
  deriving Repr, DecidableEq, Inhabited

namespace Dialect

def all : List Dialect := [plain, typed, typedMarkup]

def name : Dialect → String
  | plain => "javascript"
  | typed => "typescript"
  | typedMarkup => "tsx"

def extensions : Dialect → List String
  | plain => [".js", ".mjs", ".cjs", ".jsx"]
  | typed => [".ts", ".mts", ".cts"]
  | typedMarkup => [".tsx"]

/-- All extensions that name a dialect. -/
def supportedExtensions : List String :=
  all.flatMap extensions

def isTyped (d : Dialect) : Bool :=
  d != plain

/-- The dialect that the extension of a path names, in either case.
The extensions are plain letters, and no other character has one of
them as its lower case, so it is enough to fold those. -/
def ofPath? (path : String) : Option Dialect := do
  let extension ← Path.extension? path
  let extension := "." ++ extension.map Char.toLower
  all.find? (·.extensions.contains extension)

/-- The dialect in which a file is read: plain, unless its extension
says otherwise. -/
def ofPath (path : String) : Dialect :=
  (ofPath? path).getD plain

end Dialect

end ScriptScout
