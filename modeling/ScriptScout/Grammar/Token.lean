import ScriptScout.Grammar.Trivia

/-!
# Tokens

How long each kind of token is that a text can start with. A token is
as long as its kind allows; which kinds can stand at a place is for
the parser to say.
-/

namespace ScriptScout.Grammar

def isDigit (c : Char) : Bool := '0' ≤ c && c ≤ '9'

def isHexDigit (c : Char) : Bool :=
  isDigit c || ('a' ≤ c && c ≤ 'f') || ('A' ≤ c && c ≤ 'F')

/-! ## Words -/

/-- Characters that no word may hold. -/
def isWordBreak (c : Char) : Bool :=
  c.toNat < 0x20 || isSpace c
    || ":;\x60\"'@#.,|^&<=>+-*/\\%?!~()[]\x7b\x7d".toList.contains c

/-- The length of the Unicode escape that the text starts with. -/
def unicodeEscapeLength? : List Char → Option Nat
  | '\\' :: 'u' :: '\x7b' :: cs =>
      let digits := cs.takeWhile isHexDigit
      if !digits.isEmpty && (cs.drop digits.length).head? == some '\x7d' then
        some (digits.length + 4)
      else none
  | '\\' :: 'u' :: a :: b :: c :: d :: _ =>
      if isHexDigit a && isHexDigit b && isHexDigit c && isHexDigit d then some 6
      else none
  | _ => none

/-- The length of the rest of a word. -/
def wordTailLength : Nat → List Char → Nat
  | 0, _ => 0
  | _ + 1, [] => 0
  | fuel + 1, c :: cs =>
      if !isWordBreak c then 1 + wordTailLength fuel cs
      else
        match unicodeEscapeLength? (c :: cs) with
        | some n => n + wordTailLength fuel ((c :: cs).drop n)
        | none => 0

/-- The length of the word that the text starts with. -/
def wordLength? : List Char → Option Nat
  | [] => none
  | c :: cs =>
      if !isWordBreak c && !isDigit c then some (1 + wordTailLength (cs.length + 1) cs)
      else
        (unicodeEscapeLength? (c :: cs)).map fun n =>
          n + wordTailLength (cs.length + 1) ((c :: cs).drop n)

/-! ## Numbers -/

/-- The length of digits with single separators between them. -/
def digitsLength (ok : Char → Bool) : List Char → Nat
  | [] => 0
  | c :: cs =>
      if ok c then 1 + digitsLength ok cs
      else if c == '_' then
        match cs with
        | d :: _ => if ok d then 1 + digitsLength ok cs else 0
        | [] => 0
      else 0

/-- As `digitsLength`, and none if there is no digit at the front. -/
def digitsLength? (ok : Char → Bool) (cs : List Char) : Option Nat :=
  match cs with
  | c :: _ => if ok c then some (digitsLength ok cs) else none
  | [] => none

def exponentLength? : List Char → Option Nat
  | c :: cs =>
      if c == 'e' || c == 'E' then
        match cs with
        | s :: rest =>
            if s == '-' || s == '+' then (digitsLength? isDigit rest).map (· + 2)
            else (digitsLength? isDigit cs).map (· + 1)
        | [] => none
      else none
  | [] => none

/-- The length of a number in another base, after its two-letter mark. -/
def basedLength? (ok : Char → Bool) (cs : List Char) : Option Nat :=
  (digitsLength? ok cs).map fun n =>
    2 + n + (if (cs.drop n).head? == some 'n' then 1 else 0)

/-- May the whole digits be followed by a fraction or an exponent?
More than one zero at the front may not. -/
def wholeDigitsFit : List Char → Bool
  | '0' :: cs =>
      match cs with
      | c :: _ => isDigit c && c != '0'
      | [] => true
  | _ => true

/-- The length of a decimal number. -/
def decimalLength? (cs : List Char) : Option Nat :=
  match cs with
  | '.' :: rest =>
      (digitsLength? isDigit rest).map fun n =>
        1 + n + (exponentLength? (rest.drop n)).getD 0
  | _ => do
      let n ← digitsLength? isDigit cs
      let rest := cs.drop n
      let plain := n + (if rest.head? == some 'n' then 1 else 0)
      if wholeDigitsFit (cs.take n) then
        match rest with
        | '.' :: fraction =>
            let m := (digitsLength? isDigit fraction).getD 0
            return n + 1 + m + (exponentLength? (fraction.drop m)).getD 0
        | _ =>
            match exponentLength? rest with
            | some e => return n + e
            | none => return plain
      else return plain

/-- The length of the number that the text starts with. -/
def numberLength? (cs : List Char) : Option Nat :=
  let based : Option Nat :=
    match cs with
    | '0' :: mark :: digits =>
        if mark == 'x' || mark == 'X' then basedLength? isHexDigit digits
        else if mark == 'b' || mark == 'B' then
          basedLength? (fun c => c == '0' || c == '1') digits
        else if mark == 'o' || mark == 'O' then
          basedLength? (fun c => '0' ≤ c && c ≤ '7') digits
        else none
    | _ => none
  based.or (decimalLength? cs)

/-! ## Strings and templates -/

/-- The length of the escape sequence that the text starts with. -/
def escapeLength? : List Char → Option Nat
  | '\\' :: c :: cs =>
      if c == 'x' then
        match cs with
        | a :: b :: _ => if isHexDigit a && isHexDigit b then some 4 else none
        | _ => none
      else if c == 'u' then unicodeEscapeLength? ('\\' :: c :: cs)
      else if '0' ≤ c && c ≤ '7' then
        some (1 + ((c :: cs).take 3 |>.takeWhile fun d => '0' ≤ d && d ≤ '7').length)
      else if (c == '\r' || c == '?') && cs.head?.any isLineBreak then some 3
      else some 2
  | _ => none

/-! ## Regular expressions -/

/-- The length of a character class up to its closing bracket, after
the opening one. -/
def classLength? : List Char → Option Nat
  | ']' :: _ => some 1
  | '\\' :: c :: cs => if c == '\n' then none else (classLength? cs).map (· + 2)
  | c :: cs => if c == '\n' || c == '\\' then none else (classLength? cs).map (· + 1)
  | [] => none

/-- The length of a pattern up to and with the closing slash. -/
def patternLength? : Nat → List Char → Option Nat
  | 0, _ => none
  | _ + 1, [] => none
  | fuel + 1, c :: cs =>
      if c == '/' then some 1
      else if c == '\n' then none
      else if c == '[' then do
        let n ← classLength? cs
        return 1 + n + (← patternLength? fuel (cs.drop n))
      else if c == '\\' then
        match cs with
        | d :: rest =>
            if d == '\n' then none else (patternLength? fuel rest).map (· + 2)
        | [] => none
      else (patternLength? fuel cs).map (· + 1)

/-- The length of the regular expression that the text starts with. -/
def regexLength? : List Char → Option Nat
  | '/' :: c :: cs =>
      if c == '/' || c == '*' then none
      else do
        let n ← patternLength? (cs.length + 2) (c :: cs)
        let flags := ((c :: cs).drop n).takeWhile fun f => 'a' ≤ f && f ≤ 'z'
        return 1 + n + flags.length
  | _ => none

/-! ## Punctuation -/

/-- The marks that can follow an expression, longest first. -/
def marks : List String :=
  [">>>=", "===", "!==", "**=", "<<=", ">>=", ">>>", "&&=", "||=", "??=", "...",
    "=>", "==", "!=", "<=", ">=", "&&", "||", "??", "?.", "++", "--", "+=", "-=",
    "*=", "/=", "%=", "&=", "|=", "^=", "<<", ">>", "**"]

/-- The mark that the text starts with: the longest, or a single
character. A question mark before `.5` stands alone. -/
def mark? (cs : List Char) : Option String :=
  match cs with
  | [] => none
  | c :: _ =>
      match marks.find? (fun m => m.toList.isPrefixOf cs) with
      | some m =>
          if m == "?." && ((cs.drop 2).head?.any isDigit) then some "?" else some m
      | none => if isWordBreak c && !isSpace c then some (String.singleton c) else none

/-! ## Markup -/

/-- The length of a character reference such as `&amp;`. -/
def characterReferenceLength? : List Char → Option Nat
  | '&' :: '#' :: c :: cs =>
      if c == 'x' || c == 'X' then
        let n := (cs.takeWhile isHexDigit).length
        if 1 ≤ n && n ≤ 6 && (cs.drop n).head? == some ';' then some (n + 4) else none
      else
        let n := ((c :: cs).takeWhile isDigit).length
        if 1 ≤ n && n ≤ 5 && ((c :: cs).drop n).head? == some ';' then some (n + 3)
        else none
  | '&' :: cs =>
      let n := (cs.takeWhile isLetter).length
      if 1 ≤ n && n ≤ 30 && (cs.drop n).head? == some ';' then some (n + 2) else none
  | _ => none

/-- The text up to the next tag, expression or reference: its length,
and whether it holds more than line breaks and the blanks after them. -/
def markupText (atBreak sawText : Bool) : List Char → Nat × Bool
  | [] => (0, sawText)
  | c :: cs =>
      if "<>\x7b\x7d&".toList.contains c then (0, sawText)
      else
        let atBreak := if c == '\n' then true else atBreak && isPlainSpace c
        let (n, saw) := markupText atBreak (sawText || !atBreak) cs
        (n + 1, saw)

/-- The length of a piece of text between two tags. -/
def markupTextLength? (cs : List Char) : Option Nat :=
  let (n, sawText) := markupText false false cs
  if sawText then some n else none

/-- The length of a name with hyphens, if the text starts with one. -/
def hyphenNameLength? (cs : List Char) : Option Nat :=
  match cs with
  | c :: _ =>
      if isLetter c || c == '_' || c == '$' then
        let n := (cs.takeWhile fun c =>
          isLetter c || isDigit c || c == '_' || c == '$' || c == '-').length
        if (cs.take n).contains '-' then some n else none
      else none
  | [] => none

/-- The length of the plain text inside a quoted attribute value. -/
def attributeTextLength (quote : Char) : List Char → Nat
  | [] => 0
  | c :: cs =>
      if c == quote then 0
      else if c == '&' then
        match cs with
        | d :: rest =>
            if d == '#' || isLetter d then 0
            else 2 + attributeTextLength quote rest
        | [] => 0
      else 1 + attributeTextLength quote cs

end ScriptScout.Grammar
