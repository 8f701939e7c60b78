import ScriptScout.Text.Mark
import ScriptScout.Web.Domain.Direction
import ScriptScout.Web.Domain.Joining
import ScriptScout.Web.Domain.Mapping
import ScriptScout.Web.Domain.Punycode

/-!
# Domain names

A domain name as an address may write it, with letters of any script,
is brought into the form that the name service uses: `ascii?` maps its
characters, composes them, and writes each label that needs it in
basic characters behind the mark `xn--`.
-/

namespace ScriptScout.Web.Domain

/-- Basic characters that no domain name holds. -/
def isForbidden (c : Char) : Bool :=
  c.toNat ≤ 0x20 || c.toNat == 0x7F || "%#/:<>?@[\\]^|".toList.contains c

def encodedMark : List Char := "xn--".toList

/-- May the text stand as a label, whose characters are already mapped
and composed? -/
def isWellFormed (label : List Char) : Bool :=
  !label.head?.any Text.isCombining && joinersFit [] label

/-- The characters that a label shows. An encoded label must stand for
characters that could have been written directly and needed encoding. -/
def shownLabel? (label : List Char) : Option (List Char) :=
  if encodedMark.isPrefixOf label then do
    let shown ← Punycode.decode? (label.drop encodedMark.length)
    guard (shown.any (0x80 ≤ ·.toNat) && shown.all isKept && compose shown == shown)
    guard (isWellFormed shown)
    return shown
  else if isWellFormed label then some label
  else none

/-- A label in basic characters. -/
def encodeLabel (label : List Char) : List Char :=
  if label.all (·.toNat < 0x80) then label
  else encodedMark ++ Punycode.encode label

/-- The name in basic characters, unless it is not allowed. -/
def ascii? (name : List Char) : Option (List Char) := do
  let mapped ← mapName? name
  let labels := Text.splitOn '.' (compose mapped)
  guard !(labels.any (·.any isForbidden))
  let shown ← labels.mapM shownLabel?
  let twoWay := shown.any (·.any fun c => (Direction.of c).isRightward)
  guard (!twoWay || shown.all keepsDirection)
  return List.intercalate ['.'] (labels.map encodeLabel)

end ScriptScout.Web.Domain
