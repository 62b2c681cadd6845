import Rollout.Catalog
import Rollout.Catalog.Options
import Rollout.Service.Payload

/-!
# From a listing to a catalog

The service may list one component in several offers. Offers of no component are left out; the
others are put together by component. Where a component has more than one offer its artifacts are
put in order, latest version first. Then of several artifacts with the same version, release and
checksum the first is kept, and versions that are too old are left out.
-/

namespace Rollout.Catalog

open Service

/-- The artifact of a build. An empty release counts as none. -/
def artifactOf (build : Build) : Except CatalogError Artifact := do
  let edition ← Edition.ofListing build.edition
  let origin ← Origin.ofListing build.origin
  return {
    version := build.version
    release := build.release.filter (· ≠ "")
    checksum := build.checksum
    edition
    size := build.size.getD 0
    origin }

/-- The components that are offered, each with the artifacts of one offer, in listing order. -/
def gather (options : Options) (offers : List Offer) :
    Except CatalogError (List (Component × List Artifact)) :=
  (offers.filterMap fun offer => (options.componentOf? offer.name).map (·, offer.builds)).mapM
    fun (c, builds) => do return (c, ← builds.mapM artifactOf)

/-- Whether the first artifact has the later version. -/
def isLater (a b : Artifact) : Bool :=
  Version.compare b.version a.version == .lt

/-- Puts an artifact into a list whose latest version comes last. It comes after the last artifact
than which it is not later. -/
def insertByVersion (a : Artifact) : List Artifact → List Artifact
  | [] => [a]
  | b :: bs => if isLater a b then b :: insertByVersion a bs else a :: b :: bs

/-- The artifacts with the latest version first; equal versions stay in order. -/
def latestFirst (artifacts : List Artifact) : List Artifact :=
  (artifacts.foldl (fun placed a => insertByVersion a placed) []).reverse

/-- What must differ between the artifacts of a component. -/
def identity (a : Artifact) : String × String × String :=
  (a.version, a.release.getD "", a.checksum)

/-- The first artifact of each identity. -/
def distinct : List Artifact → List Artifact
  | [] => []
  | a :: as => a :: (distinct as).filter fun b => identity b ≠ identity a

/-- Whether the version of the artifact is high enough. -/
def reaches (floor : Option String) (a : Artifact) : Bool :=
  match floor with
  | none => true
  | some floor => Version.compare a.version floor != .lt

/-- The list of a component, from the artifacts of its offers. -/
def arrange (floor : Option String) (offers : List (List Artifact)) : List Artifact :=
  let artifacts := offers.flatten
  let ordered := if 1 < offers.length then latestFirst artifacts else artifacts
  (distinct ordered).filter (reaches floor)

/-- The catalog of a listing. -/
def normalize (options : Options) (offers : List Offer) : Except CatalogError Catalog := do
  let gathered ← gather options offers
  return ⟨.ofFn fun c =>
    match (gathered.filter (·.1 = c)).map (·.2) with
    | [] => none
    | lists => some (arrange (options.floor? c) lists)⟩

/-- The names in a listing that belong to no component. -/
def unknownNames (options : Options) (offers : List Offer) : List String :=
  (offers.filter fun offer => (options.componentOf? offer.name).isNone).map (·.name)

end Rollout.Catalog
