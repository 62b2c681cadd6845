import Rollout.Config

/-!
# Configuration from the environment

Four environment variables override values of the configuration. A variable with a value that has
no meaning is refused; those before it in order have taken effect then.
-/

namespace Rollout.Config

/-- The environment variables that are read; one that is not set is `none`. -/
structure Environment where
  /-- The output format. -/
  output : Option String
  color : Option String
  /-- The address of the service. -/
  apiUrl : Option String
  /-- The stable line that is preferred. -/
  stableLine : Option String
  deriving DecidableEq, Repr

/-- The environment without any of the variables. -/
def Environment.empty : Environment :=
  ⟨none, none, none, none⟩

/-- The environment in which a variable has the value that `lookup` gives. -/
def Environment.ofLookup (lookup : String → Option String) : Environment where
  output := lookup "DWIZ_OUTPUT"
  color := lookup "DWIZ_COLOR"
  apiUrl := lookup "DWIZ_API_URL"
  stableLine := lookup "DWIZ_STABLE_LINE"

/-- Overrides a value by a variable, if it is set. -/
def override {α : Type} (config : Config) (name : String) (setting : Option String)
    (read : String → Option α) (set : Config → α → Config) : Config × Option ConfigError :=
  match setting with
  | none => (config, none)
  | some s =>
    match read s with
    | some x => (set config x, none)
    | none => (config, some (.invalidValue name s))

/-- Overrides by further variables, unless one has been refused. -/
def andThen (result : Config × Option ConfigError)
    (next : Config → Config × Option ConfigError) : Config × Option ConfigError :=
  match result with
  | (config, none) => next config
  | refused => refused

/-- The configuration with what the environment overrides, as far as it was accepted, and what was
refused. -/
def merge (config : Config) (env : Environment) : Config × Option ConfigError :=
  andThen (andThen (andThen
    (config.override "DWIZ_OUTPUT" env.output OutputFormat.ofName?
      fun c output => { c with general.output := output })
    (·.override "DWIZ_COLOR" env.color ColorChoice.ofName?
      fun c color => { c with general.color := color }))
    (·.override "DWIZ_API_URL" env.apiUrl (fun s => if isAddress s then some s else none)
      fun c url => { c with network.apiUrl := url }))
    (·.override "DWIZ_STABLE_LINE" env.stableLine (fun s => (StableLine.parse s).toOption)
      fun c line => { c with resolver.preferredLine := some line })

end Rollout.Config
