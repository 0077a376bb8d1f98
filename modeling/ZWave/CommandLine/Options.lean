/-!
# Options of the command line

Arguments are read from left to right. An option with a value takes it from behind an equals sign or
from the next argument, which may not look like an option itself; options of one letter can be
written together. The first argument that cannot be accepted ends the reading, as does a request for
help or for the version.
-/

namespace ZWave.CommandLine

structure Options where
  model : String
  /-- The number of cycles to run at most. -/
  cycles : Nat := 500
  /-- Whether to go on once every node is ready. -/
  keepRunning : Bool := false
  /-- Whether to print the summary as JSON. -/
  json : Bool := false
  /-- Which diagnostics are wanted. -/
  logLevel : String := "info"
deriving DecidableEq

inductive UsageError where
  | unknown (argument : String)
  | stray (argument : String)
  | repeated (option : String)
  | missingValue (option : String)
  /-- A flag is given a value. -/
  | needlessValue (option : String)
  | badValue (option value : String)
  | missingModel
deriving DecidableEq

def UsageError.message : UsageError → String
  | unknown argument | stray argument => s!"unexpected argument '" ++ argument ++ "' found"
  | repeated option => s!"the argument '" ++ option ++ "' cannot be used multiple times"
  | missingValue option => s!"a value is required for '" ++ option ++ "' but none was supplied"
  | needlessValue option => s!"unexpected value for '" ++ option ++ "' found"
  | badValue option value => s!"invalid value '" ++ value ++ "' for '" ++ option ++ "'"
  | missingModel => "the following required arguments were not provided:\n  --model <MODEL>"

/-- Why the reading of arguments ends before the last. -/
inductive Stop where
  | help
  | version
  | usage (error : UsageError)
deriving DecidableEq

inductive Key where
  | model
  | cycles
  | keepRunning
  | json
  | logLevel
  | help
  | version
deriving DecidableEq

namespace Key

def all : List Key := [model, cycles, keepRunning, json, logLevel, help, version]

def long : Key → String
  | model => "model"
  | cycles => "cycles"
  | keepRunning => "keep-running"
  | json => "json"
  | logLevel => "log-level"
  | help => "help"
  | version => "version"

/-- The one-letter name, for options that have one. -/
def short? : Key → Option Char
  | model => some 'm'
  | cycles => some 'c'
  | help => some 'h'
  | version => some 'V'
  | _ => none

def hasValue : Key → Bool
  | model | cycles | logLevel => true
  | _ => false

def written (k : Key) : String := "--" ++ k.long

end Key

/-- The options given so far. -/
structure Given where
  model : Option String := none
  cycles : Option Nat := none
  keepRunning : Bool := false
  json : Bool := false
  logLevel : Option String := none

/-- The number of cycles that is written in decimal, with a plus sign in front or not; it fits
sixty-four bits. -/
def cycleCount? (text : String) : Option Nat :=
  let digits := match text.toList with
    | '+' :: rest => rest
    | cs => cs
  if digits.isEmpty || !digits.all Char.isDigit then none
  else
    let n := digits.foldl (fun n d => n * 10 + (d.toNat - '0'.toNat)) 0
    if n < UInt64.size then some n else none

namespace Given

def setFlag (g : Given) (k : Key) : Except Stop Given :=
  match k with
  | .help => .error .help
  | .version => .error .version
  | .keepRunning =>
    if g.keepRunning then .error (.usage (.repeated k.written)) else .ok { g with keepRunning := true }
  | .json => if g.json then .error (.usage (.repeated k.written)) else .ok { g with json := true }
  | _ => .error (.usage (.missingValue k.written))

def setValue (g : Given) (k : Key) (value : String) : Except Stop Given :=
  let once {α : Type} (present : Option α) (parsed : Option α) (set : α → Given) :
      Except Stop Given :=
    if present.isSome then .error (.usage (.repeated k.written))
    else match parsed with
      | some a => .ok (set a)
      | none => .error (.usage (.badValue k.written value))
  match k with
  | .model =>
    once g.model (if value.isEmpty then none else some value) fun a => { g with model := some a }
  | .cycles => once g.cycles (cycleCount? value) fun a => { g with cycles := some a }
  | .logLevel => once g.logLevel (some value) fun a => { g with logLevel := some a }
  | _ => .error (.usage (.needlessValue k.written))

/-- The options, those that are not given as they are by default. -/
def options (g : Given) : Except Stop Options :=
  match g.model with
  | none => .error (.usage .missingModel)
  | some model =>
    let plain : Options := { model }
    .ok { plain with
      cycles := g.cycles.getD plain.cycles
      keepRunning := g.keepRunning
      json := g.json
      logLevel := g.logLevel.getD plain.logLevel }

end Given

/-! ## Reading arguments -/

inductive Argument where
  /-- The marker behind which there are no more options. -/
  | endOfOptions
  /-- An option by its long name, with what is behind an equals sign. -/
  | long (name : String) (value : Option String)
  /-- Options by their letters. -/
  | short (letters : List Char)
  | plain (text : String)
deriving DecidableEq

/-- What an argument looks like. A hyphen alone is no option. -/
def Argument.ofString (text : String) : Argument :=
  match text.toList with
  | ['-', '-'] => .endOfOptions
  | '-' :: '-' :: cs =>
    let name := cs.takeWhile (· != '=')
    .long (String.ofList name)
      (if cs.contains '=' then some (String.ofList (cs.drop (name.length + 1))) else none)
  | '-' :: c :: cs => .short (c :: cs)
  | _ => .plain text

/-- Note a value option whose value is not attached: it is the next argument, if that is plain. -/
def setFromNext (g : Given) (k : Key) : List String → Except Stop (Given × List String)
  | next :: rest =>
    match Argument.ofString next with
    | .plain value => do return (← g.setValue k value, rest)
    | _ => .error (.usage (.missingValue k.written))
  | [] => .error (.usage (.missingValue k.written))

/-- Note the options of an argument of letters; `rest` are the arguments behind it. -/
def setLetters (g : Given) : List Char → List String → Except Stop (Given × List String)
  | [], rest => .ok (g, rest)
  | letter :: letters, rest =>
    match Key.all.find? fun k => k.short? == some letter with
    | none => .error (.usage (.unknown (String.ofList ['-', letter])))
    | some k =>
      if k.hasValue then
        match letters with
        | [] => setFromNext g k rest
        | '=' :: value => do return (← g.setValue k (String.ofList value), rest)
        | value => do return (← g.setValue k (String.ofList value), rest)
      else do setLetters (← g.setFlag k) letters rest

/-- Note the options of all arguments. Each round takes one argument at least. -/
def setAll : Nat → Given → List String → Except Stop Given
  | 0, g, _ => .ok g
  | _ + 1, g, [] => .ok g
  | fuel + 1, g, argument :: rest =>
    match Argument.ofString argument with
    | .plain text => .error (.usage (.stray text))
    | .endOfOptions =>
      match rest with
      | [] => .ok g
      | next :: _ => .error (.usage (.stray next))
    | .short letters => do
      let (g, rest) ← setLetters g letters rest
      setAll fuel g rest
    | .long name value =>
      match Key.all.find? fun k => k.long == name, value with
      | none, _ => .error (.usage (.unknown argument))
      | some k, some value => do setAll fuel (← g.setValue k value) rest
      | some k, none =>
        if k.hasValue then do
          let (g, rest) ← setFromNext g k rest
          setAll fuel g rest
        else do setAll fuel (← g.setFlag k) rest

def parse (arguments : List String) : Except Stop Options := do
  (← setAll arguments.length {} arguments).options

end ZWave.CommandLine
