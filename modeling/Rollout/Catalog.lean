import Rollout.Artifact
import Rollout.Component

/-!
# Catalogs

A catalog lists the installable artifacts of each component in the service's order. A component
with an empty list is known to the service and has nothing to install; that is not the same as a
component that is absent.
-/

namespace Rollout

/-- The installable artifacts of each component. -/
@[ext] structure Catalog where
  /-- The list of each component, `none` if it is absent. -/
  lists : ByComponent (Option (List Artifact))
  deriving DecidableEq, Repr

namespace Catalog

/-- The catalog without components. -/
def empty : Catalog :=
  ⟨.ofFn fun _ => none⟩

/-- The catalog with another list for one component. -/
def insert (catalog : Catalog) (c : Component) (artifacts : List Artifact) : Catalog :=
  ⟨catalog.lists.set c (some artifacts)⟩

/-- The list of a component, if it is there. -/
def artifacts? (catalog : Catalog) (c : Component) : Option (List Artifact) :=
  catalog.lists.get c

/-- The artifacts of a component, none if it is absent. -/
def artifacts (catalog : Catalog) (c : Component) : List Artifact :=
  (catalog.artifacts? c).getD []

/-- Whether the component is there. -/
def contains (catalog : Catalog) (c : Component) : Bool :=
  (catalog.artifacts? c).isSome

/-- Whether the component has something to install. -/
def hasArtifacts (catalog : Catalog) (c : Component) : Bool :=
  !(catalog.artifacts c).isEmpty

/-- The first artifact of a component that has the key. -/
def find? (catalog : Catalog) (c : Component) (key : Key) : Option Artifact :=
  (catalog.artifacts c).find? (·.hasKey key)

/-- The components that are there, with their lists. -/
def entries (catalog : Catalog) : List (Component × List Artifact) :=
  catalog.lists.present

/-- The number of components that are there. -/
def size (catalog : Catalog) : Nat :=
  catalog.entries.length

/-- Whether no component is there. -/
def isEmpty (catalog : Catalog) : Bool :=
  catalog.entries.isEmpty

/-- The number of artifacts of all components. -/
def artifactCount (catalog : Catalog) : Nat :=
  (catalog.entries.map (·.2.length)).foldr (· + ·) 0

/-- What is inserted is found. -/
@[simp] theorem artifacts?_insert_self (catalog : Catalog) (c : Component)
    (artifacts : List Artifact) : (catalog.insert c artifacts).artifacts? c = some artifacts := by
  simp [insert, artifacts?]

/-- Other components keep their lists. -/
@[simp] theorem artifacts?_insert_of_ne (catalog : Catalog) {c d : Component}
    (artifacts : List Artifact) (h : c ≠ d) :
    (catalog.insert c artifacts).artifacts? d = catalog.artifacts? d := by
  simp [insert, artifacts?, h]

/-- An empty catalog has no list for any component. -/
@[simp] theorem artifacts?_empty (c : Component) : empty.artifacts? c = none := by
  simp [empty, artifacts?]

end Catalog

end Rollout
