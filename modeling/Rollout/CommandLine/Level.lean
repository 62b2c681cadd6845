import Rollout.Command

/-!
# Levels and options

The program has commands, and one of them has commands of its own: these are the levels of the
command line. Each level has its options; those of the program may be given at every level but help.
-/

namespace Rollout.CommandLine

/-- The name of an option. -/
inductive OptionName where
  | json
  | debug
  | color
  | config
  | apiUrl
  | flow
  | select
  | active
  deriving DecidableEq, Repr

namespace OptionName

/-- The option as it is written, without its two dashes. -/
def long : OptionName → String
  | json => "json"
  | debug => "debug"
  | color => "color"
  | config => "config"
  | apiUrl => "api-url"
  | flow => "flow"
  | select => "select"
  | active => "active"

/-- What stands for the value of the option in help, if it takes one. -/
def placeholder? : OptionName → Option String
  | json | debug => none
  | color => some "COLOR"
  | config => some "PATH"
  | apiUrl => some "URL"
  | flow => some "FLOW"
  | select => some "COMPONENT=KEY"
  | active => some "COMPONENTS"

/-- Whether the option takes a value. -/
def takesValue (o : OptionName) : Bool :=
  o.placeholder?.isSome

/-- The options of the program. -/
def general : List OptionName :=
  [json, debug, color, config, apiUrl]

end OptionName

/-- A level of the command line: the program, or one of its commands. -/
inductive Level where
  | program
  | versions
  | catalog
  | drafts
  | listDrafts
  | discardDraft
  | connection
  /-- Help on the program's commands. -/
  | help
  /-- Help on the commands for drafts. -/
  | helpOnDrafts
  deriving DecidableEq, Repr

namespace Level

/-- The name of a level, and other names that it has. -/
def names : Level → List String
  | program => ["dwiz"]
  | versions => ["versions", "v"]
  | catalog => ["catalog", "ls"]
  | drafts => ["drafts"]
  | listDrafts => ["list"]
  | discardDraft => ["discard"]
  | connection => ["connection"]
  | help | helpOnDrafts => ["help"]

/-- The commands of a level. -/
def commands : Level → List Level
  | program => [versions, catalog, drafts, connection, help]
  | drafts => [listDrafts, discardDraft, helpOnDrafts]
  | _ => []

/-- Whether a level only explains. -/
def isHelp : Level → Bool
  | help | helpOnDrafts => true
  | _ => false

/-- The command of a level that has this name. -/
def command? (level : Level) (s : String) : Option Level :=
  level.commands.find? (·.names.contains s)

/-- The options of a level, in the order in which help tells them. -/
def options : Level → List OptionName
  | versions => [.flow, .json, .debug, .select, .active, .color, .config, .apiUrl]
  | catalog => .flow :: OptionName.general
  | help | helpOnDrafts => []
  | _ => OptionName.general

/-- The option of a level that is written so. -/
def option? (level : Level) (s : String) : Option OptionName :=
  level.options.find? (·.long == s)

/-- What stands for the argument of a level in help, if it needs one. -/
def argument? : Level → Option String
  | discardDraft => some "NAME"
  | connection => some "CLUSTER"
  | _ => none

end Level

/-- Why arguments cannot be used. -/
inductive Misuse where
  | unknownArgument (word : String)
  | unknownCommand (word : String)
  /-- A level that has commands was given options, but no command. -/
  | missingCommand (level : Level)
  | missingArgument (placeholder : String)
  | missingValue (option : OptionName)
  /-- An option that takes no value was given one. -/
  | needlessValue (word : String)
  | repeated (option : OptionName)
  /-- The value is none of those that the option has. -/
  | invalidValue (option : OptionName) (value : String)
  /-- The value is refused for its own reason. -/
  | refusedValue (option : OptionName) (value : String) (reason : String)
  deriving DecidableEq, Repr

/-- What the program tells about itself instead of carrying out a command. -/
inductive Notice where
  | version
  | help (level : Level)
  /-- Help on a level that was given nothing at all, and needs a command. -/
  | guidance (level : Level)
  | misuse (cause : Misuse)
  deriving DecidableEq, Repr

end Rollout.CommandLine
