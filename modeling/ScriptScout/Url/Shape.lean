import ScriptScout.Text.Basic
import ScriptScout.Text.Span
import ScriptScout.Text.Word
import ScriptScout.Web.Address

/-!
# Shapes of addresses

What a text looks like: a whole address, a bare host, a path from the
root, a relative path, a file, an interface of a service. The shapes
overlap; which one counts is for the classification to say.
-/

namespace ScriptScout.Url

open Web (Address)

/-! ## Entropy -/

/-- The entropy of the characters of a text, in bits per character. The
characters have no order of their own here, and the last bit of a sum
of doubles depends on the order in which it is made: this one is made
in the order in which characters first occur. -/
def entropy (cs : List Char) : Float :=
  let size := Float.ofNat cs.length
  cs.eraseDups.foldl (fun sum c =>
    let p := Float.ofNat (cs.count c) / size
    sum + -p * p.log2) 0

/-! ## File extensions -/

/-- The extensions that make a text a file. -/
def knownExtensions : List String :=
  [".js", ".jsx", ".ts", ".tsx", ".json", ".html", ".css", ".scss", ".less",
    ".png", ".jpg", ".jpeg", ".gif", ".svg", ".ico", ".webp", ".avif", ".mp3",
    ".mp4", ".wav", ".ogg", ".webm", ".pdf", ".doc", ".docx", ".xls", ".xlsx",
    ".ppt", ".pptx", ".zip", ".tar", ".gz", ".rar", ".md", ".txt", ".csv",
    ".xml", ".yaml", ".yml", ".env", ".log"]

/-- The letters and digits behind the first point that lead up to a
query, a fragment or the end. -/
def extensionRun? : List Char → Option (List Char)
  | [] => none
  | c :: cs =>
      let run := cs.takeWhile Char.isAlphanum
      let ends := (cs.drop run.length).head?.all fun e => e == '?' || e == '#'
      if c == '.' && !run.isEmpty && ends then some run else extensionRun? cs

/-- The known extension that a text has, in small letters and with its
point. -/
def extension? (value : String) : Option String := do
  let run ← extensionRun? value.toList
  let extension := String.ofList ('.' :: run.map Char.toLower)
  if knownExtensions.contains extension then some extension else none

/-! ## Interfaces -/

/-- Does a version such as `v2/` follow? -/
def isVersion : List Char → Bool
  | 'v' :: cs =>
      let digits := cs.takeWhile Text.isDecimalDigit
      !digits.isEmpty && (cs.drop digits.length).head? == some '/'
  | _ => false

/-- Does a slash stand before a version somewhere in the text? -/
def hasVersion : List Char → Bool
  | [] => false
  | c :: cs => (c == '/' && isVersion cs) || hasVersion cs

/-- Does the text look like the address of an interface? Case does not
matter. -/
def isApi (value : String) : Bool :=
  let cs := Text.fold value.toList
  let has (word : String) := Text.contains word.toList cs
  has "/api/" || "api/".toList.isPrefixOf cs || hasVersion cs || has "/rest/"
    || has "/graphql" || has "/webhook"

/-! ## Media types -/

def mediaTypes : List String :=
  ["application/json", "application/xml", "application/javascript", "text/html",
    "text/css", "text/javascript", "text/plain", "image/png", "image/jpeg",
    "image/svg+xml", "image/webp", "audio/mpeg", "video/mp4", "video/webm",
    "application/pdf", "application/zip", "application/octet-stream"]

def namesMediaType (value : String) : Bool :=
  mediaTypes.any fun m => Text.contains m.toList value.toList

/-! ## Whole addresses, hosts and paths -/

/-- Hosts of standards, examples and the own machine, which are of no
interest. -/
def isExcludedHost (host : String) : Bool :=
  ["www.w3.org", "reactjs.org", "example.com", "localhost"].contains host

/-- A whole address; one that starts with two slashes has the scheme
of secure pages. -/
def absolute? (value : String) : Option Address :=
  match value.toList with
  | '/' :: '/' :: rest => Address.parse? ("https://" ++ String.ofList rest)
  | _ => Address.parse? value

/-- An address that is written as a host alone. -/
def hostAddress? (value : String) : Option Address :=
  Address.parse? ("https://" ++ value)

def isFull (value : String) : Bool :=
  match absolute? value with
  | some a =>
      ["http", "https", "ftp", "ftps"].contains a.scheme
        && (a.host.map Web.Host.text).any fun h =>
            2 ≤ h.utf8ByteSize && !isExcludedHost h
  | none => false

/-- A host with at least two labels, the last of two to four
characters. -/
def isHostname (value : String) : Bool :=
  let cs := value.toList
  cs.contains '.' && !cs.contains '/'
    && match (hostAddress? value).bind (·.host) with
      | some host =>
          let text := host.text
          let labels := Text.splitOn '.' text.toList
          let last := Text.byteLength (labels.getLastD [])
          4 ≤ text.utf8ByteSize && !isExcludedHost text && 2 ≤ labels.length
            && 2 ≤ last && last ≤ 4
      | none => false

/-- A path from the root with a segment of more than two bytes. -/
def isRootPath (value : String) : Bool :=
  value.toList.head? == some '/'
    && (Text.splitOn '/' value.toList).any (2 < Text.byteLength ·)

/-- A path from here or from the directory above, with two characters
or more. -/
def isRelative (value : String) : Bool :=
  let cs := value.toList
  let rest := (Text.afterLead? "./".toList cs).or (Text.afterLead? "../".toList cs)
  rest.any (2 ≤ ·.length)

def isFile (value : String) : Bool :=
  (extension? value).isSome && value.toList.contains '/'

end ScriptScout.Url
