import ScriptScout.Text.Basic

/-!
# Percent encoding

A character that may not stand in some part of an address is written
as the bytes of its UTF-8 form, each as a percent sign and two
hexadecimal digits. Which characters those are differs from part to
part; the sets are given here as predicates.
-/

namespace ScriptScout.Web.Percent

/-! ## What is encoded where -/

/-- Control characters and everything beyond the first 128 characters
are encoded everywhere. -/
def isControl (c : Char) : Bool :=
  c.toNat < 0x20 || 0x7F ≤ c.toNat

def inFragment (c : Char) : Bool :=
  isControl c || [' ', '"', '<', '>', '\x60'].contains c

def inPath (c : Char) : Bool :=
  inFragment c || ['#', '?', '\x7b', '\x7d'].contains c

def inQuery (c : Char) : Bool :=
  isControl c || [' ', '"', '#', '<', '>'].contains c

/-- In the query of a web address the apostrophe is encoded too. -/
def inWebQuery (c : Char) : Bool :=
  inQuery c || c == '\x27'

/-! ## Encoding and decoding -/

def encodeByte (b : UInt8) : List Char :=
  ['%', (Text.hexDigit (b.toNat / 16)).toUpper, (Text.hexDigit (b.toNat % 16)).toUpper]

/-- Encodes the characters of a set. -/
def encode (set : Char → Bool) (cs : List Char) : List Char :=
  cs.flatMap fun c =>
    if set c then (String.utf8EncodeChar c).flatMap encodeByte else [c]

/-- The bytes of a text in which encoded bytes stand for themselves. A
percent sign that starts no encoded byte is kept. -/
def decode : List Char → List UInt8
  | [] => []
  | '%' :: a :: b :: rest =>
      match Text.hexValue? a, Text.hexValue? b with
      | some high, some low => UInt8.ofNat (16 * high + low) :: decode rest
      | _, _ => '%'.toUInt8 :: decode (a :: b :: rest)
  | c :: rest => String.utf8EncodeChar c ++ decode rest

/-- The text of a list of bytes, if they are well-formed UTF-8. -/
def text? (bytes : List UInt8) : Option (List Char) :=
  (String.fromUTF8? ⟨bytes.toArray⟩).map String.toList

end ScriptScout.Web.Percent
