import Rollout.Command
import Rollout.Config.Environment
import Rollout.Config.File
import Rollout.Program.Failure

/-!
# Start-up

The configuration of a run comes in three layers: the file, the environment above it, and the
settings given along with the command on top. Each layer is checked by itself, so a bad value is
refused even if a higher layer would have overridden it.
-/

namespace Rollout

/-- What the program finds around it. -/
structure Surroundings where
  files : String → File
  /-- The path of the standard configuration file, if there is a place for one. -/
  standardPath : Option String
  environment : Config.Environment
  /-- Whether the output goes to a terminal. -/
  outputTerminal : Bool
  /-- Whether status lines go to a terminal. -/
  statusTerminal : Bool

namespace Config

/-- The configuration with the colour choice that was given, if one was. -/
def withColor (config : Config) : Option ColorChoice → Config
  | none => config
  | some color => { config with general.color := color }

/-- The configuration with the address that was given, if one was and it looks like one. -/
def withAddress (config : Config) : Option String → Except ProgramError Config
  | none => .ok config
  | some url =>
    if isAddress url then .ok { config with network.apiUrl := url }
    else .error (.arguments ("--api-url must be an http(s) URL, got '" ++ url ++ "'"))

/-- The configuration with what the settings of the run override. -/
def applySettings (config : Config) (settings : RunSettings) : Except ProgramError Config := do
  let config ← (config.withColor settings.color).withAddress settings.apiUrl
  config.validate.mapError .config
  return config

/-- The configuration with what the environment overrides. -/
def applyEnvironment (config : Config) (env : Environment) : Except ConfigError Config :=
  match config.merge env with
  | (config, none) => .ok config
  | (_, some e) => .error e

/-- The configuration of a run. -/
def ofSurroundings (around : Surroundings) (settings : RunSettings) :
    Except ProgramError Config := do
  let config ← (ofFiles around.files settings.config around.standardPath).mapError .config
  let config ← (config.applyEnvironment around.environment).mapError .config
  config.applySettings settings

end Config

end Rollout
