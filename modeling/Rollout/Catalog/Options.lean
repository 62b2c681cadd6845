import Rollout.Component
import Rollout.Text.Dictionary

/-!
# Which offers belong to which component

The configuration may give a component other names in the service's listing, and a lowest version.
`Options.ofConfig` checks that every component it speaks of exists.
-/

namespace Rollout

open Text

/-- The catalog section of the configuration, as it is written. -/
structure CatalogConfig where
  /-- Names in the service's listing, each with the name of its component. -/
  aliases : Dictionary String
  /-- Names of components, each with its lowest version. -/
  floors : Dictionary String
  deriving DecidableEq, Repr

/-- The section that changes nothing. -/
def CatalogConfig.standard : CatalogConfig :=
  ⟨.empty, .empty⟩

namespace Catalog

/-- What the listing's names mean, and which versions are too old. -/
structure Options where
  /-- Names in the service's listing, each with its component. -/
  aliases : List (String × Component)
  /-- The lowest version of each component. -/
  floors : ByComponent (Option String)
  deriving DecidableEq, Repr

namespace Options

/-- The options that change nothing. -/
def standard : Options :=
  ⟨[], .ofFn fun _ => none⟩

/-- The options of a section, aliases before lowest versions and each in order. -/
def ofConfig (config : CatalogConfig) : Except CatalogError Options := do
  let aliases ← config.aliases.entries.mapM fun (name, component) => do
    return (name, ← Component.parse component)
  let floors ← config.floors.entries.mapM fun (component, floor) => do
    return (← Component.parse component, floor)
  return ⟨aliases, .ofFn fun c => floors.lookup c⟩

/-- The component of a name in the service's listing. -/
def componentOf? (options : Options) (name : String) : Option Component :=
  options.aliases.lookup name <|> Component.ofName? name

/-- The lowest version of a component. -/
def floor? (options : Options) (c : Component) : Option String :=
  options.floors.get c

end Options

end Catalog

end Rollout
