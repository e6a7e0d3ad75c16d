/-! The value of a flag is looked at when the next flag comes or when the words end, so faults that are found
before that are named first. -/

namespace Specimen.CommandLine

inductive ValueFault where
  | notAllowed
  | unreadable
  deriving DecidableEq

inductive UsageError where
  | nothingGiven
  | helpWanted
  | versionWanted
  | noCommand
  | unknownCommand (word : String)
  | unknownArgument (word : String)
  | noValue (flag : String)
  | unwantedValue (flag : String)
  | badValue (flag : String) (fault : ValueFault)
  | givenTwice (flag : String)
  | conflicting (flag other : String)
  | missing (flag : String)
  deriving DecidableEq

namespace UsageError

def message : UsageError → String
  | .nothingGiven | .noCommand => "error: a command is needed\n"
  | .helpWanted => "Usage: fauxforge [OPTIONS] <COMMAND>\n"
  | .versionWanted => "fauxforge 0.1.0\n"
  | .unknownCommand word => s!"error: unrecognized command '{word}'\n"
  | .unknownArgument word => s!"error: unexpected argument '{word}'\n"
  | .noValue flag => s!"error: a value is needed for '--{flag}'\n"
  | .unwantedValue flag => s!"error: '--{flag}' takes no value\n"
  | .badValue flag _ => s!"error: bad value for '--{flag}'\n"
  | .givenTwice flag => s!"error: '--{flag}' is given twice\n"
  | .conflicting flag other => s!"error: '--{flag}' cannot be used with '--{other}'\n"
  | .missing flag => s!"error: '--{flag}' is needed\n"

def isRequest : UsageError → Bool
  | .helpWanted | .versionWanted => true
  | _ => false

def exitCode (e : UsageError) : UInt32 := if e.isRequest then 0 else 2

end UsageError

structure Flag (ρ : Type) where
  name : String
  read : String → Except ValueFault (ρ → ρ)

namespace Flag

variable {ρ τ α : Type}

def of (name : String) (read : String → Except ValueFault α) (set : α → ρ → ρ) : Flag ρ :=
  ⟨name, fun s => (read s).map set⟩

def onFirst (f : Flag ρ) : Flag (ρ × τ) := ⟨f.name, fun s => (f.read s).map fun g p => (g p.1, p.2)⟩

def onSecond (f : Flag τ) : Flag (ρ × τ) := ⟨f.name, fun s => (f.read s).map fun g p => (p.1, g p.2)⟩

end Flag

structure Matches (ρ : Type) where
  values : ρ
  given : List String
  pending : Option (Flag ρ × Option String)

namespace Matches

variable {ρ : Type}

def start (values : ρ) : Matches ρ := ⟨values, [], none⟩

def accept (m : Matches ρ) (flag : Flag ρ) (value : Option String) : Except UsageError (Matches ρ) :=
  match value with
  | none => .error (.noValue flag.name)
  | some v =>
    if flag.name ∈ m.given then .error (.givenTwice flag.name)
    else
      match flag.read v with
      | .error fault => .error (.badValue flag.name fault)
      | .ok change => .ok ⟨change m.values, flag.name :: m.given, none⟩

def settle (m : Matches ρ) : Except UsageError (Matches ρ) :=
  match m.pending with
  | none => .ok m
  | some (flag, value) => accept m flag value

def isWaiting (m : Matches ρ) : Bool :=
  match m.pending with
  | some (_, none) => true
  | _ => false

end Matches

inductive Word where
  | barrier
  | long (name : String) (value : Option String)
  | short (letter : Char)
  | plain
  deriving DecidableEq

def Word.ofText (s : String) : Word :=
  match s.toList with
  | ['-', '-'] => .barrier
  | '-' :: '-' :: r =>
    match r.dropWhile (· ≠ '=') with
    | [] => .long (String.ofList r) none
    | _ :: value => .long (String.ofList (r.takeWhile (· ≠ '='))) (some (String.ofList value))
  | '-' :: c :: _ => .short c
  | _ => .plain

structure Level (ρ : Type) where
  flags : List (Flag ρ)
  commands : List String
  hasVersion : Bool

namespace Level

variable {ρ : Type} (level : Level ρ)

def helpWord : String := "help"

def isCommand (word : String) : Bool := level.commands.contains word || (level.commands ≠ [] && word = helpWord)

def request? (name : String) : Option UsageError :=
  if name = helpWord then some .helpWanted
  else if level.hasVersion ∧ name = "version" then some .versionWanted
  else none

def shortRequest? (letter : Char) : Option UsageError :=
  if letter = 'h' then some .helpWanted
  else if level.hasVersion ∧ letter = 'V' then some .versionWanted
  else none

def stray (word : String) : UsageError :=
  if level.commands = [] then .unknownArgument word else .unknownCommand word

def help : List String → UsageError
  | [] => .helpWanted
  | word :: rest =>
    if level.isCommand word then
      match rest with
      | [] => .helpWanted
      | next :: _ => .unknownCommand next
    else .unknownCommand word

def step (m : Matches ρ) (word : String) : Word → Except UsageError (Matches ρ)
  | .barrier => .ok m
  | .plain =>
    match m.pending with
    | some (flag, none) => .ok { m with pending := some (flag, some word) }
    | _ => .error (level.stray word)
  | .short letter =>
    match level.shortRequest? letter with
    | none => .error (.unknownArgument word)
    | some e => m.settle.bind fun _ => .error e
  | .long name value =>
    match level.request? name, value with
    | some e, none => m.settle.bind fun _ => .error e
    | some _, some _ => .error (.unwantedValue name)
    | none, value =>
      match level.flags.find? (·.name = name) with
      | none => .error (.unknownArgument word)
      | some flag =>
        m.settle.bind fun m =>
          match value with
          | some v => m.accept flag (some v)
          | none => .ok { m with pending := some (flag, none) }

/-- Goes through the words up to a command, which comes with the words behind it. A word that may still be
the value of a flag is no command. -/
def scan (m : Matches ρ) : List String → Except UsageError (Matches ρ × Option (String × List String))
  | [] => .ok (m, none)
  | word :: rest =>
    if level.isCommand word && !m.isWaiting then
      if word = helpWord then .error (level.help rest) else .ok (m, some (word, rest))
    else
      match Word.ofText word, rest with
      | .barrier, next :: _ => .error (if level.isCommand next then .unknownArgument next else level.stray next)
      | w, rest =>
        match level.step m word w with
        | .error e => .error e
        | .ok m => scan m rest

def read (initial : ρ) (words : List String) : Except UsageError ρ := do
  let (m, _) ← level.scan (.start initial) words
  return (← m.settle).values

end Level

end Specimen.CommandLine
