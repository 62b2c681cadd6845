import Rollout.Catalog.Options
import Rollout.Mirror
import Rollout.Session
import Rollout.Text.Blank

/-!
# Configuration

The configuration has five sections, each with standard values. `Config.validate` refuses values
that contradict each other or cannot work.
-/

namespace Rollout

open Text

/-- How results are written. -/
inductive OutputFormat where
  | plain
  | tty
  | json
  deriving DecidableEq, Repr

namespace OutputFormat

/-- The name of a format. -/
def name : OutputFormat → String
  | plain => "plain"
  | tty => "tty"
  | json => "json"

/-- The format with this name. -/
def ofName? (s : String) : Option OutputFormat :=
  [plain, tty, json].find? (·.name == s)

/-- A format is found by its name. -/
@[simp] theorem ofName?_name (format : OutputFormat) : ofName? format.name = some format := by
  cases format <;> decide

end OutputFormat

/-- When colour is used. -/
inductive ColorChoice where
  | always
  /-- If the output is a terminal. -/
  | auto
  | never
  deriving DecidableEq, Repr

namespace ColorChoice

/-- The name of a choice. -/
def name : ColorChoice → String
  | always => "always"
  | auto => "auto"
  | never => "never"

/-- The choice with this name. -/
def ofName? (s : String) : Option ColorChoice :=
  [always, auto, never].find? (·.name == s)

/-- A choice is found by its name. -/
@[simp] theorem ofName?_name (choice : ColorChoice) : ofName? choice.name = some choice := by
  cases choice <;> decide

/-- Whether colour is used on an output that is a terminal or is none. -/
def enabled (choice : ColorChoice) (terminal : Bool) : Bool :=
  match choice with
  | always => true
  | auto => terminal
  | never => false

end ColorChoice

/-- What concerns the program as a whole. -/
structure GeneralConfig where
  output : OutputFormat
  color : ColorChoice
  deriving DecidableEq, Repr

/-- How the service is reached. -/
structure NetworkConfig where
  /-- The address of the service. -/
  apiUrl : String
  /-- The seconds that an answer may take. -/
  timeout : UInt64
  /-- The seconds that a connection may take. -/
  connectTimeout : UInt64
  /-- The number of times that a failed request is sent again. -/
  retries : UInt32
  /-- The seconds before the first of them; each further one waits as much longer. -/
  retryDelay : UInt64
  /-- The milliseconds between two questions to a busy service. -/
  busyRetryDelay : UInt64
  deriving DecidableEq, Repr

/-- The whole configuration. -/
structure Config where
  general : GeneralConfig
  network : NetworkConfig
  resolver : ResolverPolicy
  mirrors : MirrorPolicy
  catalog : CatalogConfig
  deriving DecidableEq, Repr

/-- The standard values of the general section. -/
def GeneralConfig.standard : GeneralConfig :=
  ⟨.tty, .auto⟩

/-- The standard values of the network section. -/
def NetworkConfig.standard : NetworkConfig where
  apiUrl := "http://127.0.0.1:8680"
  timeout := 30
  connectTimeout := 10
  retries := 3
  retryDelay := 1
  busyRetryDelay := 1000

namespace Config

/-- The standard values of all sections. -/
def standard : Config :=
  ⟨.standard, .standard, .standard, .standard, .standard⟩

/-- Refuses a blank address, a delay of zero, and fewer expected mirrors than known ones; the first
of these that holds is told. -/
def validate (config : Config) : Except ConfigError Unit :=
  let expected := config.mirrors.expectedCount.toNat
  let known := config.mirrors.known.length
  if trim config.network.apiUrl.toList = [] then
    .error (.missingField "network.api_url")
  else if config.network.busyRetryDelay = 0 then
    .error (.invalidValue "network.busy_retry_delay_ms" "0")
  else if expected < known then
    .error (.invalid ("mirrors.expected_count (" ++ toString expected ++
      ") is smaller than the number of known mirrors (" ++ toString known ++ ")"))
  else .ok ()

/-- Whether a text begins like the address of a service. -/
def isAddress (s : String) : Bool :=
  startsWith "http://" s || startsWith "https://" s

end Config

end Rollout
