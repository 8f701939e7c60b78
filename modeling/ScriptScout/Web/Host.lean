import ScriptScout.Web.Domain.Name
import ScriptScout.Web.Percent

/-!
# Hosts

A host is a domain name, an address in numbers of four bytes or of
eight groups, or, outside the web, any text. `parse?` reads the host
of a web address and `parseOpaque?` that of any other; `text` writes a
host in its normal form.
-/

namespace ScriptScout.Web

inductive Host where
  /-- A name, already in basic characters. -/
  | domain (name : String)
  /-- A number below 2^32. -/
  | ipv4 (address : Nat)
  /-- Eight numbers below 2^16. -/
  | ipv6 (groups : List Nat)
  deriving Repr, DecidableEq, Inhabited

namespace Host

/-! ## Four bytes -/

/-- A part of an address in numbers. `0x` starts a hexadecimal part
and `0` an octal one; with nothing behind that it is zero. Anything
else but digits is no number (`none`), and a number of 2^32 or above is
`some none`. -/
def numberPart? (cs : List Char) : Option (Option Nat) :=
  let (base, digits) :=
    match cs with
    | '0' :: 'x' :: rest | '0' :: 'X' :: rest => (16, rest)
    | '0' :: c :: rest => (8, c :: rest)
    | _ => (10, cs)
  if cs.isEmpty then none
  else if digits.isEmpty then some (some 0)
  else if digits.all fun c => (Text.hexValue? c).any (· < base) then
    some (Text.numeral? base (Nat.pow 2 32) digits)
  else none

/-- Does the name end in a number, so that it has to be an address of
four bytes? One point at the end does not count. -/
def endsInNumber (cs : List Char) : Bool :=
  match (Text.splitOn '.' cs).reverse with
  | [] :: last :: _ | last :: _ =>
      (!last.isEmpty && last.all Char.isDigit) || (numberPart? last).isSome
  | [] => false

/-- An address of four bytes. The last part stands for all the bytes
that are left. -/
def ipv4? (cs : List Char) : Option Nat := do
  let parts := Text.splitOn '.' cs
  let parts := if parts.getLast? == some [] then parts.dropLast else parts
  guard (parts.length ≤ 4)
  let numbers ← parts.mapM fun p => (numberPart? p).bind id
  let last ← numbers.getLast?
  let heads := numbers.dropLast
  guard (last < Nat.pow 256 (4 - heads.length))
  guard (heads.all (· < 256))
  return heads.foldr (fun n (sum, weight) => (sum + n * weight, weight * 256))
    (last, Nat.pow 256 (4 - heads.length)) |>.1

def ipv4Text (address : Nat) : String :=
  String.intercalate "." ([24, 16, 8, 0].map fun k => toString (address / Nat.pow 2 k % 256))

/-! ## Eight groups -/

/-- A group of one to four hexadecimal digits. -/
def group? (cs : List Char) : Option Nat :=
  if cs.length ≤ 4 then Text.numeral? 16 (Nat.pow 2 16) cs else none

/-- A byte in decimal digits, without a leading zero. -/
def byte? (cs : List Char) : Option Nat :=
  if cs.head? == some '0' && 1 < cs.length then none
  else Text.numeral? 10 256 cs

/-- The two groups that four bytes in decimal form at the end of an
address stand for. -/
def dotted? (cs : List Char) : Option (List Nat) := do
  let bytes ← (Text.splitOn '.' cs).mapM byte?
  match bytes with
  | [a, b, c, d] => return [a * 256 + b, c * 256 + d]
  | _ => none

/-- Groups between colons; the last may be four bytes if `final`. -/
def groups? (final : Bool) (cs : List Char) : Option (List Nat) := do
  if cs.isEmpty then return []
  let pieces := Text.splitOn ':' cs
  let last := pieces.getLastD []
  let heads ← pieces.dropLast.mapM group?
  if final && last.contains '.' then return heads ++ (← dotted? last)
  else return heads ++ [← group? last]

/-- What stands before and after the first pair of colons. -/
def splitGap? : List Char → Option (List Char × List Char)
  | [] => none
  | [_] => none
  | a :: b :: rest =>
      if a == ':' && b == ':' then some ([], rest)
      else (splitGap? (b :: rest)).map fun p => (a :: p.1, p.2)

/-- An address of eight groups, of which a pair of colons leaves out
one or more that are zero. -/
def ipv6? (cs : List Char) : Option (List Nat) :=
  match splitGap? cs with
  | none => do
      let groups ← groups? true cs
      if groups.length == 8 then return groups else none
  | some (before, after) => do
      let left ← groups? false before
      let right ← groups? true after
      let size := left.length + right.length
      if size < 8 then return left ++ List.replicate (8 - size) 0 ++ right else none

/-- The first longest run of zero groups, as its start and length. -/
def zeroRun (groups : List Nat) : Nat × Nat :=
  (List.range groups.length).foldl (fun best i =>
    let size := ((groups.drop i).takeWhile (· == 0)).length
    if best.2 < size then (i, size) else best) (0, 0)

def groupsText (groups : List Nat) : String :=
  String.intercalate ":" (groups.map fun n => String.ofList (Nat.toDigits 16 n))

/-- Writes an address with its longest run of zeros left out, if that
has two groups or more. -/
def ipv6Text (groups : List Nat) : String :=
  let (start, size) := zeroRun groups
  if size < 2 then groupsText groups
  else groupsText (groups.take start) ++ "::" ++ groupsText (groups.drop (start + size))

/-! ## Reading and writing -/

def bracketed? : List Char → Option Host
  | '[' :: rest =>
      if rest.getLast? == some ']' then (ipv6? rest.dropLast).map ipv6 else none
  | _ => none

/-- Reads the host of a web address. -/
def parse? (cs : List Char) : Option Host :=
  if cs.head? == some '[' then bracketed? cs
  else do
    let name ← Domain.ascii? (← Percent.text? (Percent.decode cs))
    guard !name.isEmpty
    if endsInNumber name then return ipv4 (← ipv4? name)
    else return domain (String.ofList name)

/-- Reads the host of an address outside the web. -/
def parseOpaque? (cs : List Char) : Option Host :=
  if cs.head? == some '[' then bracketed? cs
  else if cs.any "\x00\t\n\r #/:<>?@[\\]^|".toList.contains then none
  else some (domain (String.ofList (Percent.encode Percent.isControl cs)))

def text : Host → String
  | domain name => name
  | ipv4 address => ipv4Text address
  | ipv6 groups => "[" ++ ipv6Text groups ++ "]"

end Host

end ScriptScout.Web
