import Rollout.Error

/-!
# Editions and origins

The edition of an artifact is the track under which it is licensed; its origin says where it is
served from. The service uses short names of its own for both, and leaves them out for what is most
common.
-/

namespace Rollout

/-- The track under which an artifact is licensed. -/
inductive Edition where
  | community
  | commercial
  deriving DecidableEq, Repr

namespace Edition

/-- The full name of an edition. -/
def name : Edition → String
  | community => "community"
  | commercial => "commercial"

/-- The edition of a full name or of the service's short name. -/
def ofName? : String → Option Edition
  | "community" | "ce" => some community
  | "commercial" | "business" => some commercial
  | _ => none

/-- Reads the name of an edition. -/
def parse (s : String) : Except CatalogError Edition :=
  match ofName? s with
  | some edition => .ok edition
  | none => .error (.invalidEdition s)

/-- The edition in a listing of the service, where a missing one is commercial. -/
def ofListing : Option String → Except CatalogError Edition
  | none => .ok commercial
  | some s => parse s

/-- An edition is found by its name. -/
@[simp] theorem ofName?_name (edition : Edition) : ofName? edition.name = some edition := by
  cases edition <;> rfl

end Edition

/-- Where an artifact is served from. -/
inductive Origin where
  /-- A mirror in the network. -/
  | remote
  /-- An image on the service's own machine. -/
  | localImage
  deriving DecidableEq, Repr

namespace Origin

/-- The full name of an origin. -/
def name : Origin → String
  | remote => "remote-mirror"
  | localImage => "local-image"

/-- The short name of an origin. -/
def shortName : Origin → String
  | remote => "remote"
  | localImage => "local"

/-- The origin of a full or of a short name. -/
def ofName? : String → Option Origin
  | "remote-mirror" | "remote" => some remote
  | "local-image" | "local" => some localImage
  | _ => none

/-- The origin in a listing of the service, where a missing one is remote. -/
def ofListing : Option String → Except CatalogError Origin
  | none => .ok remote
  | some s =>
    match ofName? s with
    | some origin => .ok origin
    | none => .error (.invalidOrigin s)

/-- An origin is found by its name. -/
@[simp] theorem ofName?_name (origin : Origin) : ofName? origin.name = some origin := by
  cases origin <;> rfl

end Origin

end Rollout
