import Rollout.Catalog
import Rollout.Flow
import Rollout.Json.Decode
import Rollout.Selection
import Rollout.StableLine

/-!
# Artifacts and catalogs as JSON

Each type of the catalog's vocabulary has a `toJson` and an `ofJson?`. A record is written as an
object with its fields in order, and a missing release of an artifact is left out.
-/

namespace Rollout

open Json

/-- A component is written by its name. -/
def Component.toJson (c : Component) : Json :=
  .string c.name

/-- Reads a component. -/
def Component.ofJson? : Json → Option Component :=
  asNamed ofName?

/-- A flow is written by its long name. -/
def Flow.toJson (flow : Flow) : Json :=
  .string flow.longName

/-- Reads a flow. -/
def Flow.ofJson? : Json → Option Flow :=
  asNamed ofLongName?

/-- An edition is written by its full name. -/
def Edition.toJson (edition : Edition) : Json :=
  .string edition.name

/-- Reads an edition, by either name. -/
def Edition.ofJson? : Json → Option Edition :=
  asNamed ofName?

/-- An origin is written by its full name. -/
def Origin.toJson (origin : Origin) : Json :=
  .string origin.name

/-- Reads an origin, by either name. -/
def Origin.ofJson? : Json → Option Origin :=
  asNamed ofName?

/-- A stable line is written as its text. -/
def StableLine.toJson (line : StableLine) : Json :=
  .string line.text

/-- Reads a stable line. -/
def StableLine.ofJson? (j : Json) : Option StableLine :=
  (asString j).bind fun s => (parse s).toOption

namespace Key

/-- A key is written as a record. -/
def toJson (key : Key) : Json :=
  .object [
    ("version", .string key.version),
    ("release", .ofOption .string key.release),
    ("checksum", .string key.checksum)]

/-- Reads a key. -/
def ofJson? (j : Json) : Option Key := do
  match ← slots? ["version", "release", "checksum"] j with
  | [version, release, checksum] =>
    return {
      version := ← version.required asString
      release := ← release.nullable asString
      checksum := ← checksum.required asString }
  | _ => none

end Key

namespace Artifact

/-- An artifact is written as a record. -/
def toJson (a : Artifact) : Json :=
  .object <|
    [("version", .string a.version)] ++
    (a.release.map fun release => ("release", .string release)).toList ++
    [("checksum", .string a.checksum),
      ("edition", a.edition.toJson),
      ("estimated_size_bytes", .ofUInt64 a.size),
      ("origin", a.origin.toJson)]

/-- Reads an artifact; release and size may be left out. -/
def ofJson? (j : Json) : Option Artifact := do
  match ← slots?
    ["version", "release", "checksum", "edition", "estimated_size_bytes", "origin"] j with
  | [version, release, checksum, edition, size, origin] =>
    return {
      version := ← version.required asString
      release := ← release.getD (asOption asString) none
      checksum := ← checksum.required asString
      edition := ← edition.required Edition.ofJson?
      size := ← size.getD asUInt64 0
      origin := ← origin.required Origin.ofJson? }
  | _ => none

end Artifact

namespace ByComponent

variable {α : Type}

/-- A table is written as an object, the components that have a value in listing order. -/
def toJson (write : α → Json) (t : ByComponent (Option α)) : Json :=
  .object (t.present.map fun (c, x) => (c.name, write x))

/-- Reads a table; of several values of one component the last counts. -/
def ofJson? (read : Json → Option α) (j : Json) : Option (ByComponent (Option α)) :=
  (asPairs Component.ofName? read j).map fun pairs =>
    pairs.foldl (fun t (c, x) => t.set c (some x)) (.ofFn fun _ => none)

end ByComponent

/-- A catalog is written as a table of lists. -/
def Catalog.toJson (catalog : Catalog) : Json :=
  catalog.lists.toJson (.ofList Artifact.toJson)

/-- Reads a catalog. -/
def Catalog.ofJson? (j : Json) : Option Catalog :=
  (ByComponent.ofJson? (asList Artifact.ofJson?) j).map Catalog.mk

/-- A selection is written as a table of artifacts. -/
def Selection.toJson (selection : Selection) : Json :=
  selection.chosen.toJson Artifact.toJson

/-- Reads a selection. -/
def Selection.ofJson? (j : Json) : Option Selection :=
  (ByComponent.ofJson? Artifact.ofJson? j).map Selection.mk

end Rollout
