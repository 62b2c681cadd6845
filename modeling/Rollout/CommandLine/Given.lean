import Rollout.CommandLine.Level

/-!
# What has been given

What has been given at one level of the command line. Most options may be given once at a level;
choices and active components add up. Of what is given at several levels the innermost counts.
-/

namespace Rollout.CommandLine

/-- The options and the argument that a level was given. -/
structure Given where
  json : Bool
  debug : Bool
  color : Option ColorChoice
  config : Option String
  apiUrl : Option String
  flow : Option Flow
  choices : List Choice
  active : Option (List Component)
  argument : Option String
  deriving DecidableEq, Repr

namespace Given

/-- Nothing has been given. -/
def nothing : Given where
  json := false
  debug := false
  color := none
  config := none
  apiUrl := none
  flow := none
  choices := []
  active := none
  argument := none

/-- The value for an option that may be given once. -/
def once {α : Type} (o : OptionName) (value : String) (before : Option α)
    (read : String → Option α) : Except Misuse (Option α) :=
  match before, read value with
  | some _, _ => .error (.repeated o)
  | none, some x => .ok (some x)
  | none, none => .error (.invalidValue o value)

/-- A value that is refused for the reason that its reader gives. -/
def accepted {α : Type} (o : OptionName) (value : String) (read : Except String α) :
    Except Misuse α :=
  read.mapError (.refusedValue o value)

/-- The components of a list with commas. -/
def readComponents (s : String) : Except String (List Component) :=
  (Text.pieces ',' s).mapM fun name => (Component.parse name).mapError CatalogError.message

/-- Takes an option with its value. -/
def set (g : Given) (o : OptionName) (value : String) : Except Misuse Given := do
  match o with
  | .json | .debug => .error (.needlessValue value)
  | .color => return { g with color := ← once o value g.color ColorChoice.ofName? }
  | .config =>
    return { g with config := ← once o value g.config fun s => if s = "" then none else some s }
  | .apiUrl => return { g with apiUrl := ← once o value g.apiUrl some }
  | .flow => return { g with flow := ← once o value g.flow Flow.ofName? }
  | .select => return { g with choices := g.choices ++ [← accepted o value (Choice.parse value)] }
  | .active =>
    let components ← accepted o value (readComponents value)
    return { g with active := some (g.active.getD [] ++ components) }

/-- Takes an option that has no value. -/
def raise (g : Given) (o : OptionName) : Except Misuse Given :=
  match o with
  | .json => if g.json then .error (.repeated o) else .ok { g with json := true }
  | .debug => if g.debug then .error (.repeated o) else .ok { g with debug := true }
  | _ => .error (.missingValue o)

/-- The settings of the run, from what the levels were given, the outermost first. -/
def settings (levels : List Given) : RunSettings where
  json := levels.any (·.json)
  debug := levels.any (·.debug)
  color := levels.reverse.findSome? (·.color)
  config := levels.reverse.findSome? (·.config)
  apiUrl := levels.reverse.findSome? (·.apiUrl)

/-- The command of the innermost level, if it was given what it needs. -/
def command (level : Level) (g : Given) : Except Notice Command :=
  match level, g.argument with
  | .versions, _ => .ok (.versions (g.flow.getD .install) g.choices g.active)
  | .catalog, _ => .ok (.catalog (g.flow.getD .install))
  | .listDrafts, _ => .ok .listDrafts
  | .discardDraft, some name => .ok (.discardDraft name)
  | .connection, some cluster => .ok (.connection cluster)
  | .discardDraft, none | .connection, none =>
    .error (.misuse (.missingArgument (level.argument?.getD "")))
  | .help, _ | .helpOnDrafts, _ => .error (.help level)
  | .program, _ | .drafts, _ =>
    if g = nothing then .error (.guidance level) else .error (.misuse (.missingCommand level))

end Given

end Rollout.CommandLine
