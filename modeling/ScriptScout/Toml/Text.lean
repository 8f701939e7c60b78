import ScriptScout.Text.Basic

/-!
# Strings, names and blanks in settings files

The readers take the rest of a text and give back what follows the
part that they have read.
-/

namespace ScriptScout.Toml

/-! ## Blanks and comments -/

def skipSpaces (cs : List Char) : List Char :=
  cs.dropWhile fun c => c == ' ' || c == '\t'

/-- What follows a line break. -/
def afterBreak? : List Char → Option (List Char)
  | '\n' :: cs => some cs
  | '\r' :: '\n' :: cs => some cs
  | _ => none

/-- May the character stand in a comment or, but for what ends it, in a
string? -/
def isPrintable (c : Char) : Bool :=
  c == '\t' || (0x20 ≤ c.toNat && c.toNat != 0x7F)

/-- Passes a comment, if one starts here. -/
def skipComment : List Char → List Char
  | '#' :: cs => cs.dropWhile isPrintable
  | cs => cs

/-- What follows the end of a line, which may hold a comment. -/
def afterLine? (cs : List Char) : Option (List Char) :=
  match skipComment (skipSpaces cs) with
  | [] => some []
  | rest => afterBreak? rest

/-- Passes blanks, comments and line breaks. -/
def skipLines : Nat → List Char → List Char
  | 0, cs => cs
  | fuel + 1, cs =>
      match afterBreak? (skipComment (skipSpaces cs)) with
      | some rest => skipLines fuel rest
      | none => skipSpaces cs

def skipAll (cs : List Char) : List Char := skipLines (cs.length + 1) cs

/-! ## Whole numbers -/

/-- Has the number at most 64 bits with its sign? There are no others
in a file. The bits of `-(k + 1)` are those of `k`, inverted. -/
def isLong : Int → Bool
  | .ofNat k => k < 0x8000000000000000
  | .negSucc k => k < 0x8000000000000000

/-! ## Strings -/

/-- The character of an escape, read after its backslash. -/
def readEscape : List Char → Option (Char × List Char)
  | [] => none
  | c :: cs =>
      let coded (size : Nat) : Option (Char × List Char) := do
        guard (size ≤ cs.length)
        let n ← Text.numeral? 16 (Nat.pow 2 32) (cs.take size)
        if n.isValidChar then some (Char.ofNat n, cs.drop size) else none
      match c with
      | 'b' => some ('\x08', cs)
      | 't' => some ('\t', cs)
      | 'n' => some ('\n', cs)
      | 'f' => some ('\x0c', cs)
      | 'r' => some ('\r', cs)
      | '"' => some ('"', cs)
      | '\\' => some ('\\', cs)
      | 'u' => coded 4
      | 'U' => coded 8
      | _ => none

/-- The characters of a string on one line, read after its quote. -/
def readBasic : Nat → List Char → Option (List Char × List Char)
  | 0, _ => none
  | _, [] => none
  | fuel + 1, c :: cs =>
      if c == '"' then some ([], cs)
      else if c == '\\' then do
        let (e, cs) ← readEscape cs
        let (text, rest) ← readBasic fuel cs
        return (e :: text, rest)
      else if isPrintable c then do
        let (text, rest) ← readBasic fuel cs
        return (c :: text, rest)
      else none

/-- The characters of a literal string on one line, read after its
quote. -/
def readLiteral (cs : List Char) : Option (List Char × List Char) :=
  let text := cs.takeWhile fun c => isPrintable c && c != '\x27'
  match cs.drop text.length with
  | '\x27' :: rest => some (text, rest)
  | _ => none

/-- What ends a string of several lines: three quotes, before which up
to two more belong to the string. -/
def closing? (quote : Char) (cs : List Char) : Option (List Char × List Char) :=
  let run := cs.takeWhile (· == quote)
  if run.length < 3 then none
  else
    let size := min run.length 5
    some (List.replicate (size - 3) quote, cs.drop size)

/-- Passes blanks and line breaks. -/
def skipBlankLines : Nat → List Char → List Char
  | 0, cs => cs
  | fuel + 1, cs =>
      match afterBreak? (skipSpaces cs) with
      | some rest => skipBlankLines fuel rest
      | none => skipSpaces cs

/-- Blanks behind a backslash that end in a line break, with all blanks
and breaks that follow. -/
def afterFold? (cs : List Char) : Option (List Char) :=
  (afterBreak? (skipSpaces cs)).map fun rest => skipBlankLines (rest.length + 1) rest

/-- The characters of a string of several lines. -/
def readBasicLines : Nat → List Char → Option (List Char × List Char)
  | 0, _ => none
  | _, [] => none
  | fuel + 1, c :: cs =>
      match closing? '"' (c :: cs) with
      | some done => some done
      | none =>
          let keep (kept : List Char) (cs : List Char) : Option (List Char × List Char) := do
            let (text, rest) ← readBasicLines fuel cs
            return (kept ++ text, rest)
          if c == '\\' then
            match afterFold? cs with
            | some rest => keep [] rest
            | none => do
                let (e, cs) ← readEscape cs
                keep [e] cs
          else
            match afterBreak? (c :: cs) with
            | some rest => keep ['\n'] rest
            | none => if isPrintable c then keep [c] cs else none

/-- The characters of a literal string of several lines. -/
def readLiteralLines : Nat → List Char → Option (List Char × List Char)
  | 0, _ => none
  | _, [] => none
  | fuel + 1, c :: cs =>
      match closing? '\x27' (c :: cs) with
      | some done => some done
      | none =>
          let keep (kept : Char) (cs : List Char) : Option (List Char × List Char) := do
            let (text, rest) ← readLiteralLines fuel cs
            return (kept :: text, rest)
          match afterBreak? (c :: cs) with
          | some rest => keep '\n' rest
          | none => if isPrintable c then keep c cs else none

/-- A line break right behind the opening quotes does not count. -/
def skipBreak (cs : List Char) : List Char := (afterBreak? cs).getD cs

/-- A string in any of its four forms. -/
def readString (cs : List Char) : Option (String × List Char) := do
  let (text, rest) ←
    match cs with
    | '"' :: '"' :: '"' :: rest => readBasicLines (cs.length + 1) (skipBreak rest)
    | '"' :: rest => readBasic (cs.length + 1) rest
    | '\x27' :: '\x27' :: '\x27' :: rest => readLiteralLines (cs.length + 1) (skipBreak rest)
    | '\x27' :: rest => readLiteral rest
    | _ => none
  return (String.ofList text, rest)

/-! ## Names -/

def isBare (c : Char) : Bool := c.isAlphanum || c == '-' || c == '_'

/-- A name: bare, or a string on one line. -/
def readName (cs : List Char) : Option (String × List Char) :=
  match cs with
  | '"' :: rest => (readBasic (cs.length + 1) rest).map fun p => (String.ofList p.1, p.2)
  | '\x27' :: rest => (readLiteral rest).map fun p => (String.ofList p.1, p.2)
  | _ =>
      let name := cs.takeWhile isBare
      if name.isEmpty then none else some (String.ofList name, cs.drop name.length)

/-- Names with points between them. -/
def readNames : Nat → List Char → Option (List String × List Char)
  | 0, _ => none
  | fuel + 1, cs => do
      let (name, rest) ← readName (skipSpaces cs)
      match skipSpaces rest with
      | '.' :: more =>
          let (names, rest) ← readNames fuel more
          return (name :: names, rest)
      | rest => return ([name], rest)

end ScriptScout.Toml
