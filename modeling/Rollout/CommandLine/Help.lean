import Rollout.CommandLine.Level
import Rollout.Http.Settings

/-!
# Notices

The texts of what the program tells about itself: its version, help on a level, and what is wrong
with its arguments.
-/

namespace Rollout.CommandLine

namespace OptionName

/-- What the option is for. -/
def purpose : OptionName → String
  | json => "Output in JSON format"
  | debug => "Enable structured debug logging on stderr"
  | color => "Color output control"
  | config => "Use alternate config file"
  | apiUrl => "Deployment service base URL"
  | flow => "Wizard flow"
  | select => "Pick an artifact instead of the recommendation (COMPONENT=KEY)"
  | active => "Components counted in the size estimate"

/-- The values that the option can have, if they are few. -/
def values : OptionName → List String
  | color => [ColorChoice.always, .auto, .never].map ColorChoice.name
  | flow => [Flow.install, .upgrade].map Flow.name
  | _ => []

/-- The value that the option has if it is not given. -/
def standard? : OptionName → Option String
  | flow => some Flow.install.name
  | _ => none

/-- The option with what stands for its value. -/
def form (o : OptionName) : String :=
  "--" ++ o.long ++
    match o.placeholder? with
    | none => ""
    | some placeholder => " <" ++ placeholder ++ ">"

/-- What help tells of the values. -/
def valueNotes (o : OptionName) : List String :=
  (o.standard?.toList.map fun value => "[default: " ++ value ++ "]") ++
    if o.values = [] then []
    else ["[possible values: " ++ ", ".intercalate o.values ++ "]"]

/-- The purpose with what help tells of the values. -/
def description (o : OptionName) : String :=
  " ".intercalate (o.purpose :: o.valueNotes)

end OptionName

namespace Level

/-- What a level is for. -/
def purpose : Level → String
  | program => "Component version selection for the deployment wizard"
  | versions => "Show the recommended versions and whether the wizard can proceed"
  | catalog => "List every installable artifact per component"
  | drafts => "Manage drafts left by interrupted wizard runs"
  | listDrafts => "List draft deployments"
  | discardDraft => "Delete a draft deployment"
  | connection => "Show connection parameters of an existing cluster"
  | help | helpOnDrafts => "Print this message or the help of the given subcommand(s)"

/-- The name of a level. -/
def name (level : Level) : String :=
  level.names.headD ""

/-- The names that lead to a level. -/
def path (level : Level) : List String :=
  match level with
  | program => [level.name]
  | listDrafts | discardDraft | helpOnDrafts => [program.name, drafts.name, level.name]
  | _ => [program.name, level.name]

/-- The arguments of a level as help tells them. -/
def arguments : Level → List (String × String)
  | discardDraft => [("<NAME>", "Draft name")]
  | connection => [("<CLUSTER>", "Cluster name")]
  | help | helpOnDrafts => [("[COMMAND]...", "Print help for the subcommand(s)")]
  | _ => []

/-- How a level is used. -/
def usage (level : Level) : String :=
  " ".intercalate (level.path ++ (if level.isHelp then [] else ["[OPTIONS]"]) ++
    (if level.commands = [] then level.arguments.map Prod.fst else ["<COMMAND>"]))

/-- The options of a level as help tells them. -/
def optionRows (level : Level) : List (String × String) :=
  if level.isHelp then []
  else
    (level.options.map fun o => ("    " ++ o.form, o.description)) ++
      [("-h, --help", "Print help")] ++
      if level = program then [("-V, --version", "Print version")] else []

/-- A heading and rows below it, the second columns below each other. -/
def block (heading : String) (rows : List (String × String)) : List String :=
  let width := (rows.map fun row => row.1.length).foldl max 0
  (heading ++ ":") :: rows.map fun (left, right) =>
    "  " ++ left ++ String.ofList (List.replicate (width - left.length + 2) ' ') ++ right

/-- The help on a level. -/
def helpText (level : Level) : String :=
  let commands := level.commands.map fun inner => (inner.name, inner.purpose)
  let blocks := [("Commands", commands), ("Arguments", level.arguments),
    ("Options", level.optionRows)].filter (!·.2.isEmpty)
  let sections := [level.purpose] :: ["Usage: " ++ level.usage] ::
    blocks.map fun (heading, rows) => block heading rows
  "\n\n".intercalate (sections.map ("\n".intercalate ·)) ++ "\n"

end Level

namespace Misuse

/-- What is wrong. -/
def message : Misuse → String
  | unknownArgument word => "unexpected argument '" ++ word ++ "' found"
  | unknownCommand word => "unrecognized subcommand '" ++ word ++ "'"
  | missingCommand level =>
    "'" ++ " ".intercalate level.path ++ "' requires a subcommand but one was not provided"
  | missingArgument placeholder =>
    "the following required arguments were not provided:\n  <" ++ placeholder ++ ">"
  | missingValue option =>
    "a value is required for '" ++ option.form ++ "' but none was supplied"
  | needlessValue word => "unexpected value for '" ++ word ++ "' found; no more were expected"
  | repeated option => "the argument '" ++ option.form ++ "' cannot be used multiple times"
  | invalidValue option value => "invalid value '" ++ value ++ "' for '" ++ option.form ++ "'"
  | refusedValue option value reason =>
    "invalid value '" ++ value ++ "' for '" ++ option.form ++ "': " ++ reason

end Misuse

namespace Notice

/-- Whether the program was asked for the notice. -/
def isRequested : Notice → Bool
  | version | help _ => true
  | guidance _ | misuse _ => false

/-- The text of a notice. -/
def text : Notice → String
  | version => Level.program.name ++ " " ++ Http.programVersion ++ "\n"
  | help level | guidance level => level.helpText
  | misuse cause =>
    "error: " ++ cause.message ++ "\n\nFor more information, try '--help'.\n"

end Notice

end Rollout.CommandLine
