import ScriptScout.Decimal.Reader
import ScriptScout.Text.Basic

/-!
# Values of literals

What string and number literals of a script denote.
-/

namespace ScriptScout

/-! ## Escape sequences -/

/-- The character with a code in hexadecimal digits; a code without a
character gives the replacement character. -/
def charOfHex? (digits : List Char) : Option (List Char) :=
  (Text.numeral? 16 (Nat.pow 2 32) digits).map fun n =>
    [if n.isValidChar then Char.ofNat n else '\ufffd']

/-- Removes braces around a code. -/
def stripBraces (cs : List Char) : List Char :=
  let cs := cs.dropWhile (· == '\x7b')
  (cs.reverse.dropWhile (· == '\x7d')).reverse

/-- What an escape sequence denotes. A sequence that cannot be decoded
stands for itself, and a backslash before any other character for that
character. -/
def unescape : List Char → List Char
  | '\\' :: c :: rest =>
      if c == 'n' then ['\n']
      else if c == 't' then ['\t']
      else if c == 'r' then ['\r']
      else if c == 'b' then ['\x08']
      else if c == 'f' then ['\x0c']
      else if c == 'v' then ['\x0b']
      else if c == '0' && rest.isEmpty then ['\x00']
      else if c == 'x' then (charOfHex? rest).getD ('\\' :: c :: rest)
      else if c == 'u' then (charOfHex? (stripBraces rest)).getD ('\\' :: c :: rest)
      else if c == '\n' || c == '\r' || c == '\u2028' || c == '\u2029' then []
      else c :: rest
  | ['\\'] => []
  | cs => cs

/-! ## Numbers -/

/-- The double nearest to a decimal literal. -/
def decimalLiteral (cs : List Char) : Float :=
  let mantissa := cs.takeWhile (· != 'e')
  let exponent := Decimal.exponentValue ((cs.dropWhile (· != 'e')).drop 1)
  let whole := mantissa.takeWhile (· != '.')
  let fraction := (mantissa.dropWhile (· != '.')).drop 1
  Decimal.nearest (whole ++ fraction) (exponent - fraction.length)

def notANumber : Float := 0 / 0

/-- The value of a number in another base; one of more than 64 bits
has none. -/
def basedLiteral (base : Nat) (digits : List Char) : Float :=
  match Text.numeral? base (Nat.pow 2 64) digits with
  | some n => Float.ofNat n
  | none => notANumber

/-- The value of a number literal. Separators and the mark of a big
integer do not count. -/
def numberLiteral (text : String) : Float :=
  let cs := (text.toList.filter (· != '_')).map Char.toLower
  let cs := (cs.reverse.dropWhile (· == 'n')).reverse
  match cs with
  | '0' :: 'x' :: digits => basedLiteral 16 digits
  | '0' :: 'o' :: digits => basedLiteral 8 digits
  | '0' :: 'b' :: digits => basedLiteral 2 digits
  | _ => decimalLiteral cs

end ScriptScout
