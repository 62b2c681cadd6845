import Rollout.CommandLine.Given

/-!
# Reading the command line

The arguments are read level by level. A value of an option may follow it as the next word, and is
looked at only when the next option, argument, or the end of the level shows that it is complete;
what an inner level has been given is looked at before. After two dashes every word is an argument.
-/

namespace Rollout.CommandLine

open Text

/-- An option that has been named and not yet taken. -/
inductive Pending where
  | nothing
  /-- The next word is its value. -/
  | awaited (option : OptionName)
  | complete (option : OptionName) (value : String)
  deriving DecidableEq, Repr

/-- How far a level has been read. -/
structure Progress where
  given : Given
  pending : Pending
  /-- Whether every further word is an argument. -/
  literal : Bool
  deriving DecidableEq, Repr

/-- What a word is by its look. -/
inductive Word where
  | command (level : Level)
  /-- Two dashes alone. -/
  | dashes
  /-- A long option, maybe with a value after an equals sign. -/
  | long (name : String) (value : Option String)
  /-- Short options; only the first one counts. -/
  | short (letter : Char)
  | plain
  deriving DecidableEq, Repr

/-- A text after two dashes as an option, maybe with a value. -/
def Word.ofLong (s : List Char) : Word :=
  match splitFirst '=' s with
  | some (name, value) => .long (String.ofList name) (some (String.ofList value))
  | none => .long (String.ofList s) none

/-- The word by its look; a single dash is no option. -/
def Word.ofText (s : String) : Word :=
  match s.toList with
  | ['-', '-'] => .dashes
  | '-' :: '-' :: rest => .ofLong rest
  | '-' :: letter :: _ => .short letter
  | _ => .plain

namespace Progress

/-- Nothing of a level has been read. -/
def start : Progress :=
  ⟨.nothing, .nothing, false⟩

/-- Whether the next word is the value of an option. -/
def awaits (p : Progress) : Bool :=
  match p.pending with
  | .awaited _ => true
  | _ => false

/-- What has been given once the pending option is taken. -/
def settled (p : Progress) : Except Notice Given :=
  match p.pending with
  | .nothing => .ok p.given
  | .awaited o => .error (.misuse (.missingValue o))
  | .complete o value => (p.given.set o value).mapError .misuse

/-- What a word is to a level that has been read so far. -/
def classify (p : Progress) (level : Level) (s : String) : Word :=
  if p.literal then .plain
  else
    match if p.awaits then none else level.command? s with
    | some inner => .command inner
    | none => .ofText s

/-- Takes a long option. -/
def takeLong (p : Progress) (level : Level) (name : String) (value : Option String) :
    Except Notice Progress :=
  match level.option? name, value with
  | some o, none => do
    let given ← p.settled
    if o.takesValue then return { p with given, pending := .awaited o }
    else return { p with given := ← (given.raise o).mapError .misuse, pending := .nothing }
  | some o, some value =>
    if o.takesValue then do
      let given ← p.settled
      return { p with given := ← (given.set o value).mapError .misuse, pending := .nothing }
    else .error (.misuse (.needlessValue ("--" ++ name)))
  | none, value =>
    let notice? : Option Notice :=
      if name = "help" then some (.help level)
      else if name = "version" ∧ level = .program then some .version
      else none
    match notice?, value with
    | none, _ => .error (.misuse (.unknownArgument ("--" ++ name)))
    | some _, some _ => .error (.misuse (.needlessValue ("--" ++ name)))
    | some notice, none => do
      let _ ← p.settled
      .error notice

/-- Takes a short option. -/
def takeShort (p : Progress) (level : Level) (letter : Char) : Except Notice Progress := do
  if letter = 'h' then
    let _ ← p.settled
    .error (.help level)
  else if letter = 'V' ∧ level = .program then
    let _ ← p.settled
    .error .version
  else .error (.misuse (.unknownArgument (String.ofList ['-', letter])))

/-- What is wrong with an argument that a level does not have. -/
def stray (p : Progress) (level : Level) (s : String) : Misuse :=
  if level.commands = [] ∨ (p.literal ∧ (level.command? s).isSome) then .unknownArgument s
  else .unknownCommand s

/-- Takes a word that is the value of an option or an argument. -/
def takePlain (p : Progress) (level : Level) (s : String) : Except Notice Progress :=
  match p.pending, p.literal with
  | .awaited o, false => .ok { p with pending := .complete o s }
  | _, _ =>
    if level.argument?.isSome ∧ p.given.argument = none then do
      let given ← p.settled
      return { p with given := { given with argument := some s }, pending := .nothing }
    else .error (.misuse (p.stray level s))

end Progress

/-- The level that words after a request for help lead to. -/
def helpTopic (level : Level) : List String → Notice
  | [] => .help level
  | s :: rest =>
    match level.command? s with
    | some inner => helpTopic inner rest
    | none => .misuse (.unknownCommand s)

/-- Reads what remains for a level and the levels within it. -/
def readLevel (level : Level) (p : Progress) : List String → Except Notice (List Given × Command)
  | [] => do
    let given ← p.settled
    return ([given], ← given.command level)
  | s :: rest =>
    match p.classify level s with
    | .command inner =>
      if inner.isHelp then .error (helpTopic level rest)
      else do
        let (levels, command) ← readLevel inner .start rest
        return ((← p.settled) :: levels, command)
    | .dashes => readLevel level { p with literal := true } rest
    | .long name value => do readLevel level (← p.takeLong level name value) rest
    | .short letter => do readLevel level (← p.takeShort level letter) rest
    | .plain => do readLevel level (← p.takePlain level s) rest

/-- What the arguments of the program ask for. -/
def read (args : List String) : Except Notice Invocation := do
  let (levels, command) ← readLevel .program .start args
  return ⟨command, Given.settings levels⟩

end Rollout.CommandLine
