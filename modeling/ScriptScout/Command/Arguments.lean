import ScriptScout.Decimal.Reader
import ScriptScout.Report.Data
import ScriptScout.Text.Basic

/-!
# Arguments

How the words of a command line become a command and its options.

Words are read from left to right. A word for an option that takes a
value is pending until the value was seen, and so are paths: they are
taken in (`Progress.settle`) when the next option is recognised or the
words end, so that of two faults the one that is met first is the one
that is reported. After `--` every word is a path.
-/

namespace ScriptScout.Command

/-- What the program is asked to do. -/
inductive Task where
  | analyze
  | init
  deriving Repr, DecidableEq, Inhabited

structure Options where
  paths : List String := []
  confidence : Option Float := none
  depth : Option Nat := none
  config : Option String := none
  format : Option Report.Format := none
  compact : Bool := false
  verbose : Bool := false
  quiet : Bool := false
  deriving Inhabited

structure Invocation where
  task : Task
  options : Options
  deriving Inhabited

/-- Why words are no invocation, or what they ask for in its place. -/
inductive Usage where
  | unknownArgument
  | unknownCommand
  | invalidValue
  | unreadableValue
  | conflict
  | tooManyValues
  | help
  | version
  deriving Repr, DecidableEq, Inhabited

/-! ## The arguments there are -/

inductive Flag where
  | compact
  | verbose
  | quiet
  | help
  | version
  deriving Repr, DecidableEq, Inhabited

inductive Valued where
  | confidence
  | depth
  | config
  | format
  deriving Repr, DecidableEq, Inhabited

inductive Argument where
  | flag (f : Flag)
  | valued (v : Valued)
  deriving Repr, DecidableEq, Inhabited

/-- Has a task the argument? -/
def Argument.belongs (a : Argument) : Task → Bool
  | .analyze => true
  | .init => a == .flag .verbose || a == .flag .quiet || a == .flag .help

def Argument.ofLong? : String → Option Argument
  | "confidence" => some (.valued .confidence)
  | "depth" => some (.valued .depth)
  | "config" => some (.valued .config)
  | "format" => some (.valued .format)
  | "compact" => some (.flag .compact)
  | "verbose" => some (.flag .verbose)
  | "quiet" => some (.flag .quiet)
  | "help" => some (.flag .help)
  | "version" => some (.flag .version)
  | _ => none

def Argument.ofShort? : Char → Option Argument
  | 'c' => some (.valued .confidence)
  | 'd' => some (.valued .depth)
  | 'v' => some (.flag .verbose)
  | 'q' => some (.flag .quiet)
  | 'h' => some (.flag .help)
  | 'V' => some (.flag .version)
  | _ => none

/-! ## Taking arguments in -/

/-- A whole number of at most 64 bits. -/
def depth? (text : String) : Option Nat := do
  let digits := match text.toList with
    | '+' :: ds => ds
    | ds => ds
  guard (!digits.isEmpty && digits.all Char.isDigit)
  let n := Decimal.digitsValue digits
  guard (n < Nat.pow 2 64)
  return n

namespace Options

/-- Sets a flag. None may be set twice. -/
def raise (o : Options) : Flag → Except Usage Options
  | .compact => if o.compact then .error .conflict else .ok { o with compact := true }
  | .verbose => if o.verbose then .error .conflict else .ok { o with verbose := true }
  | .quiet => if o.quiet then .error .conflict else .ok { o with quiet := true }
  | .help => .error .help
  | .version => .error .version

/-- Sets an option to the value that a word writes. None may be set
twice. -/
def set (o : Options) (v : Valued) (word : String) : Except Usage Options :=
  match v with
  | .confidence =>
      if o.confidence.isSome then .error .conflict
      else
        match Decimal.read? word with
        | some x => .ok { o with confidence := some x }
        | none => .error .unreadableValue
  | .depth =>
      if o.depth.isSome then .error .conflict
      else
        match depth? word with
        | some n => .ok { o with depth := some n }
        | none => .error .unreadableValue
  | .config =>
      if o.config.isSome then .error .conflict
      else if word.isEmpty then .error .invalidValue
      else .ok { o with config := some word }
  | .format =>
      if o.format.isSome then .error .conflict
      else
        match [Report.Format.json, .terminal].find? (·.name == word) with
        | some f => .ok { o with format := some f }
        | none => .error .invalidValue

def addPaths (o : Options) (paths : List String) : Except Usage Options :=
  if paths.any String.isEmpty then .error .invalidValue
  else .ok { o with paths := o.paths ++ paths }

end Options

/-! ## Reading words -/

/-- What was seen but not taken in. -/
inductive Pending where
  | none
  | option (v : Valued) (word : Option String)
  | paths (words : List String)
  deriving Repr, Inhabited

structure Progress where
  task : Task := .analyze
  options : Options := {}
  pending : Pending := .none
  /-- Was an argument recognised? From then on no word is a command. -/
  recognized : Bool := false
  /-- Was `--` seen? -/
  onlyPaths : Bool := false
  deriving Inhabited

namespace Progress

/-- Takes in what is pending. -/
def settle (p : Progress) : Except Usage Progress := do
  let options ← match p.pending with
    | .none => pure p.options
    | .option _ none => throw .invalidValue
    | .option v (some word) => p.options.set v word
    | .paths words => p.options.addPaths words
  return { p with options, pending := .none }

def raise (p : Progress) (f : Flag) : Except Usage Progress := do
  let p ← p.settle
  return { p with options := ← p.options.raise f, recognized := true }

/-- An option, with its value if that is attached to it. -/
def option (p : Progress) (v : Valued) (word : Option String) : Except Usage Progress := do
  let p := { ← p.settle with recognized := true }
  match word with
  | some word => return { p with options := ← p.options.set v word }
  | none => return { p with pending := .option v none }

def argument? (p : Progress) (a : Option Argument) : Except Usage Argument :=
  match a with
  | some a => if a.belongs p.task then .ok a else .error .unknownArgument
  | none => .error .unknownArgument

/-- A word behind two dashes. -/
def long (p : Progress) (word : List Char) : Except Usage Progress := do
  let (name, value) := match Text.splitFirst? '=' word with
    | some (name, value) => (name, some (String.ofList value))
    | none => (word, none)
  match ← p.argument? (Argument.ofLong? (String.ofList name)) with
  | .flag f => if value.isSome then throw .tooManyValues else p.raise f
  | .valued v => p.option v value

/-- Letters behind one dash. What follows an option that takes a value
is that value. -/
def short (p : Progress) : List Char → Except Usage Progress
  | [] => .ok p
  | c :: cs => do
      match ← p.argument? (Argument.ofShort? c) with
      | .flag f => (← p.raise f).short cs
      | .valued v =>
          match cs with
          | [] => p.option v none
          | '=' :: cs | cs => p.option v (some (String.ofList cs))

/-- A path. The second task takes one only. -/
def path (p : Progress) (word : String) : Except Usage Progress := do
  match p.task, p.pending with
  | .analyze, .paths words => return { p with pending := .paths (words ++ [word]) }
  | .init, .paths _ => throw .unknownArgument
  | task, _ =>
      if task == .init && !p.options.paths.isEmpty then throw .unknownArgument
      return { ← p.settle with pending := .paths [word], recognized := true }

/-- A word that is no command. -/
def word (p : Progress) (w : String) : Except Usage Progress :=
  if p.onlyPaths then p.path w
  else
    match w.toList with
    | ['-', '-'] => .ok { p with onlyPaths := true }
    | '-' :: '-' :: cs => p.long cs
    | '-' :: c :: cs => p.short (c :: cs)
    | _ =>
        match p.pending with
        | .option v none => .ok { p with pending := .option v (some w) }
        | _ => p.path w

end Progress

/-- What help is asked for by the words behind that command. -/
def helpOn : List String → Usage
  | [] | ["init"] | ["help"] => .help
  | _ => .unknownCommand

/-- Reads the words in order. A command is recognised in front of all
arguments only. -/
def read (p : Progress) : List String → Except Usage Progress
  | [] => p.settle
  | w :: ws =>
      if p.task == .analyze && !p.recognized && !p.onlyPaths && w == "init" then
        read { task := .init } ws
      else if p.task == .analyze && !p.recognized && !p.onlyPaths && w == "help" then
        .error (helpOn ws)
      else do
        read (← p.word w) ws

/-- The invocation that words write. -/
def Invocation.parse (words : List String) : Except Usage Invocation := do
  let p ← read {} words
  if p.options.quiet && p.options.verbose then throw .conflict
  return { task := p.task, options := p.options }

end ScriptScout.Command
