import Rollout.Catalog
import Rollout.Selection

/-!
# Missing components

A required component is missing if no artifact is chosen for it or the catalog has none.
-/

namespace Rollout

/-- Whether a component stands in the way. -/
def isMissing (catalog : Catalog) (selection : Selection) (c : Component) : Bool :=
  !selection.contains c || !catalog.hasArtifacts c

/-- The required components that are missing, in listing order. -/
def missingComponents (catalog : Catalog) (selection : Selection) (required : List Component) :
    List Component :=
  Component.normalized (required.filter (isMissing catalog selection))

/-- Whether no required component is missing. -/
def isComplete (catalog : Catalog) (selection : Selection) (required : List Component) : Bool :=
  (missingComponents catalog selection required).isEmpty

/-- Exactly the required components that stand in the way are missing. -/
theorem mem_missingComponents {catalog : Catalog} {selection : Selection}
    {required : List Component} {c : Component} :
    c ∈ missingComponents catalog selection required ↔
      c ∈ required ∧ isMissing catalog selection c = true := by
  simp [missingComponents]

end Rollout
