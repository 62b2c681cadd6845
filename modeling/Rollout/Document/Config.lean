import Rollout.Config
import Rollout.Document.Artifact

/-!
# The configuration as JSON

Every section and every field of a section may be left out. The same forms are read from a
configuration file, whose tables and values are taken for objects and JSON values.
-/

namespace Rollout

open Json Text

/-- An output format is written by its name. -/
def OutputFormat.toJson (format : OutputFormat) : Json :=
  .string format.name

/-- Reads an output format. -/
def OutputFormat.ofJson? : Json → Option OutputFormat :=
  asNamed ofName?

/-- A colour choice is written by its name. -/
def ColorChoice.toJson (choice : ColorChoice) : Json :=
  .string choice.name

/-- Reads a colour choice. -/
def ColorChoice.ofJson? : Json → Option ColorChoice :=
  asNamed ofName?

namespace GeneralConfig

/-- The section is written as a record. -/
def toJson (c : GeneralConfig) : Json :=
  .object [("default_output", c.output.toJson), ("color", c.color.toJson)]

/-- Reads the section. -/
def ofJson? (j : Json) : Option GeneralConfig := do
  match ← slots? ["default_output", "color"] j with
  | [output, color] =>
    return {
      output := ← output.getD OutputFormat.ofJson? standard.output
      color := ← color.getD ColorChoice.ofJson? standard.color }
  | _ => none

end GeneralConfig

namespace NetworkConfig

/-- The section is written as a record. -/
def toJson (c : NetworkConfig) : Json :=
  .object [
    ("api_url", .string c.apiUrl),
    ("timeout", .ofUInt64 c.timeout),
    ("connect_timeout", .ofUInt64 c.connectTimeout),
    ("retries", .ofNat c.retries.toNat),
    ("retry_delay", .ofUInt64 c.retryDelay),
    ("busy_retry_delay_ms", .ofUInt64 c.busyRetryDelay)]

/-- Reads the section. -/
def ofJson? (j : Json) : Option NetworkConfig := do
  match ← slots? ["api_url", "timeout", "connect_timeout", "retries", "retry_delay",
    "busy_retry_delay_ms"] j with
  | [apiUrl, timeout, connectTimeout, retries, retryDelay, busyRetryDelay] =>
    return {
      apiUrl := ← apiUrl.getD asString standard.apiUrl
      timeout := ← timeout.getD asUInt64 standard.timeout
      connectTimeout := ← connectTimeout.getD asUInt64 standard.connectTimeout
      retries := ← retries.getD asUInt32 standard.retries
      retryDelay := ← retryDelay.getD asUInt64 standard.retryDelay
      busyRetryDelay := ← busyRetryDelay.getD asUInt64 standard.busyRetryDelay }
  | _ => none

end NetworkConfig

namespace ResolverPolicy

/-- The section is written as a record. -/
def toJson (p : ResolverPolicy) : Json :=
  .object [
    ("preferred_core_line", .ofOption StableLine.toJson p.preferredLine),
    ("low_version_major", .ofNat p.lowVersionMajor.toNat)]

/-- Reads the section. -/
def ofJson? (j : Json) : Option ResolverPolicy := do
  match ← slots? ["preferred_core_line", "low_version_major"] j with
  | [line, major] =>
    return {
      preferredLine := ← line.getD (asOption StableLine.ofJson?) none
      lowVersionMajor := ← major.getD asUInt32 standard.lowVersionMajor }
  | _ => none

end ResolverPolicy

namespace MirrorPolicy

/-- The section is written as a record. -/
def toJson (p : MirrorPolicy) : Json :=
  .object [
    ("known", .ofList .string p.known),
    ("expected_count", .ofUInt64 p.expectedCount)]

/-- Reads the section. -/
def ofJson? (j : Json) : Option MirrorPolicy := do
  match ← slots? ["known", "expected_count"] j with
  | [known, expectedCount] =>
    return {
      known := ← known.getD (asList asString) standard.known
      expectedCount := ← expectedCount.getD asUInt64 standard.expectedCount }
  | _ => none

end MirrorPolicy

/-- A dictionary of texts is written as an object. -/
def dictionaryToJson (d : Dictionary String) : Json :=
  .object (d.entries.map fun (name, s) => (name, .string s))

/-- Reads a dictionary of texts. -/
def dictionaryOfJson? (j : Json) : Option (Dictionary String) :=
  (asPairs some asString j).map Dictionary.ofList

namespace CatalogConfig

/-- The section is written as a record. -/
def toJson (c : CatalogConfig) : Json :=
  .object [
    ("aliases", dictionaryToJson c.aliases),
    ("min_versions", dictionaryToJson c.floors)]

/-- Reads the section. -/
def ofJson? (j : Json) : Option CatalogConfig := do
  match ← slots? ["aliases", "min_versions"] j with
  | [aliases, floors] =>
    return {
      aliases := ← aliases.getD dictionaryOfJson? .empty
      floors := ← floors.getD dictionaryOfJson? .empty }
  | _ => none

end CatalogConfig

namespace Config

/-- The configuration is written as a record of its sections. -/
def toJson (c : Config) : Json :=
  .object [
    ("general", c.general.toJson),
    ("network", c.network.toJson),
    ("resolver", c.resolver.toJson),
    ("mirrors", c.mirrors.toJson),
    ("catalog", c.catalog.toJson)]

/-- Reads a configuration. -/
def ofJson? (j : Json) : Option Config := do
  match ← slots? ["general", "network", "resolver", "mirrors", "catalog"] j with
  | [general, network, resolver, mirrors, catalog] =>
    return {
      general := ← general.getD GeneralConfig.ofJson? .standard
      network := ← network.getD NetworkConfig.ofJson? .standard
      resolver := ← resolver.getD ResolverPolicy.ofJson? .standard
      mirrors := ← mirrors.getD MirrorPolicy.ofJson? .standard
      catalog := ← catalog.getD CatalogConfig.ofJson? .standard }
  | _ => none

end Config

end Rollout
