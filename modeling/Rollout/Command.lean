import Rollout.Artifact.Key
import Rollout.Config
import Rollout.Flow

/-!
# Commands

What the program can be told to do, and the settings that can be given along with any command.
-/

namespace Rollout

open Text

/-- An artifact that is to be chosen for a component. -/
structure Choice where
  component : Component
  key : Key
  deriving DecidableEq, Repr

/-- The choice that a text names: a component, an equals sign, and the text of a key. A text that is
none gives the reason. -/
def Choice.parse (s : String) : Except String Choice :=
  match splitFirst '=' s.toList with
  | none => .error ("expected COMPONENT=KEY, got '" ++ s ++ "'")
  | some (component, key) => do
    let component ← (Component.parse (String.ofList component)).mapError CatalogError.message
    let key ← (Key.parse (String.ofList key)).mapError SelectionError.message
    return ⟨component, key⟩

/-- What the program is to do. -/
inductive Command where
  /-- Show what would be installed. -/
  | versions (flow : Flow) (choices : List Choice) (active : Option (List Component))
  /-- List everything that can be installed. -/
  | catalog (flow : Flow)
  | listDrafts
  | discardDraft (name : String)
  /-- Show how to connect to a cluster. -/
  | connection (cluster : String)
  deriving DecidableEq, Repr

/-- The settings of one run of the program. -/
structure RunSettings where
  /-- Whether the result is written as a document for other programs. -/
  json : Bool
  /-- Whether details are told. -/
  debug : Bool
  color : Option ColorChoice
  /-- The path of the configuration file. -/
  config : Option String
  /-- The address of the service. -/
  apiUrl : Option String
  deriving DecidableEq, Repr

/-- What the arguments of the program ask for. -/
structure Invocation where
  command : Command
  settings : RunSettings
  deriving DecidableEq, Repr

end Rollout
