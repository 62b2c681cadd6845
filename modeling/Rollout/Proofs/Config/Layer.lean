import Rollout.Document.Config
import Rollout.Proofs.Json.Record

/-!
# Layers of a configuration

A layer says something about some fields of the configuration and nothing about the others. Laid
over a configuration it overrides the fields that it says something about, and laid over another
layer it does the same to what that one says (`Layer.apply_atop`). A configuration that is read from
a document is what the document says, laid over the standard values (`Config.eq_config_ofDocument`).
-/

namespace Rollout

open Json Text

/-- What a layer says about the fields of the configuration. -/
structure Layer where
  output : Option OutputFormat := none
  color : Option ColorChoice := none
  apiUrl : Option String := none
  timeout : Option UInt64 := none
  connectTimeout : Option UInt64 := none
  retries : Option UInt32 := none
  retryDelay : Option UInt64 := none
  busyRetryDelay : Option UInt64 := none
  preferredLine : Option StableLine := none
  lowVersionMajor : Option UInt32 := none
  known : Option (List String) := none
  expectedCount : Option UInt64 := none
  aliases : Option (Dictionary String) := none
  floors : Option (Dictionary String) := none

namespace Layer

/-- What two layers say, the upper one where both say something. -/
def atop (upper lower : Layer) : Layer where
  output := upper.output.or lower.output
  color := upper.color.or lower.color
  apiUrl := upper.apiUrl.or lower.apiUrl
  timeout := upper.timeout.or lower.timeout
  connectTimeout := upper.connectTimeout.or lower.connectTimeout
  retries := upper.retries.or lower.retries
  retryDelay := upper.retryDelay.or lower.retryDelay
  busyRetryDelay := upper.busyRetryDelay.or lower.busyRetryDelay
  preferredLine := upper.preferredLine.or lower.preferredLine
  lowVersionMajor := upper.lowVersionMajor.or lower.lowVersionMajor
  known := upper.known.or lower.known
  expectedCount := upper.expectedCount.or lower.expectedCount
  aliases := upper.aliases.or lower.aliases
  floors := upper.floors.or lower.floors

/-- The configuration with what a layer says in place of its own values. -/
def apply (layer : Layer) (config : Config) : Config where
  general := {
    output := layer.output.getD config.general.output
    color := layer.color.getD config.general.color }
  network := {
    apiUrl := layer.apiUrl.getD config.network.apiUrl
    timeout := layer.timeout.getD config.network.timeout
    connectTimeout := layer.connectTimeout.getD config.network.connectTimeout
    retries := layer.retries.getD config.network.retries
    retryDelay := layer.retryDelay.getD config.network.retryDelay
    busyRetryDelay := layer.busyRetryDelay.getD config.network.busyRetryDelay }
  resolver := {
    preferredLine := layer.preferredLine.or config.resolver.preferredLine
    lowVersionMajor := layer.lowVersionMajor.getD config.resolver.lowVersionMajor }
  mirrors := {
    known := layer.known.getD config.mirrors.known
    expectedCount := layer.expectedCount.getD config.mirrors.expectedCount }
  catalog := {
    aliases := layer.aliases.getD config.catalog.aliases
    floors := layer.floors.getD config.catalog.floors }

/-- What a layer says, and the standard values of all else. -/
def config (layer : Layer) : Config :=
  layer.apply .standard

/-- A layer that says nothing overrides nothing. -/
theorem apply_nothing (config : Config) : ({} : Layer).apply config = config :=
  rfl

/-- Two layers override like one after the other. -/
theorem apply_atop (upper lower : Layer) (config : Config) :
    (upper.atop lower).apply config = upper.apply (lower.apply config) := by
  simp only [apply, atop, Option.getD_or, Option.or_assoc]

end Layer

/-! ## Documents -/

/-- The sections of a configuration. -/
def Config.sections : List String :=
  ["general", "network", "resolver", "mirrors", "catalog"]

/-- The fields of the general section. -/
def GeneralConfig.fields : List String :=
  ["default_output", "color"]

/-- The fields of the section of the network. -/
def NetworkConfig.fields : List String :=
  ["api_url", "timeout", "connect_timeout", "retries", "retry_delay", "busy_retry_delay_ms"]

/-- The fields of the section of the resolver. -/
def ResolverPolicy.fields : List String :=
  ["preferred_core_line", "low_version_major"]

/-- The fields of the section of the mirrors. -/
def MirrorPolicy.fields : List String :=
  ["known", "expected_count"]

/-- The fields of the section of the catalog. -/
def CatalogConfig.fields : List String :=
  ["aliases", "min_versions"]

/-- What a section says about one of its fields, if the section is there. -/
def said? {α : Type} (read : Json → Option α) (fields : List String) (name : String)
    (content : Option Json) : Option α :=
  (content.bind (field? fields name)).bind read

/-- What a document says, section by section. -/
def Layer.ofDocument (j : Json) : Layer :=
  let general := field? Config.sections "general" j
  let network := field? Config.sections "network" j
  let resolver := field? Config.sections "resolver" j
  let mirrors := field? Config.sections "mirrors" j
  let catalog := field? Config.sections "catalog" j
  { output := said? OutputFormat.ofJson? GeneralConfig.fields "default_output" general
    color := said? ColorChoice.ofJson? GeneralConfig.fields "color" general
    apiUrl := said? asString NetworkConfig.fields "api_url" network
    timeout := said? asUInt64 NetworkConfig.fields "timeout" network
    connectTimeout := said? asUInt64 NetworkConfig.fields "connect_timeout" network
    retries := said? asUInt32 NetworkConfig.fields "retries" network
    retryDelay := said? asUInt64 NetworkConfig.fields "retry_delay" network
    busyRetryDelay := said? asUInt64 NetworkConfig.fields "busy_retry_delay_ms" network
    preferredLine := said? StableLine.ofJson? ResolverPolicy.fields "preferred_core_line" resolver
    lowVersionMajor := said? asUInt32 ResolverPolicy.fields "low_version_major" resolver
    known := said? (asList asString) MirrorPolicy.fields "known" mirrors
    expectedCount := said? asUInt64 MirrorPolicy.fields "expected_count" mirrors
    aliases := said? dictionaryOfJson? CatalogConfig.fields "aliases" catalog
    floors := said? dictionaryOfJson? CatalogConfig.fields "min_versions" catalog }

section Slots

variable {α β γ : Type}

/-- What is read for a field that may be left out is given by its value and by the absence of
one. -/
theorem Json.Slot.eq_of_getD {read : Json → Option α} {standard a : α} {slot : Slot}
    {f : Option Json → α} (h : slot.getD read standard = some a) (hmissing : f none = standard)
    (hgiven : ∀ j a, read j = some a → a = f (some j)) : a = f slot.value? := by
  rcases Slot.getD_eq_some_iff.1 h with ⟨hnone, rfl⟩ | ⟨j, hvalue, hread⟩
  · rw [hnone, hmissing]
  · rw [hvalue]
    exact hgiven j a hread

/-- What is read for a field is what is said about it, or the standard value. -/
theorem Json.Slot.eq_said {read : Json → Option α} {standard a : α} {slot : Slot}
    (h : slot.getD read standard = some a) : a = (slot.value?.bind read).getD standard :=
  eq_of_getD (f := fun value? => (value?.bind read).getD standard) h rfl fun j a hread => by
    simp [hread]

/-- A section of two fields is read field by field. -/
theorem eq_of_twoFields {readFirst : Json → Option α} {readSecond : Json → Option β}
    {standardFirst : α} {standardSecond : β} {make : α → β → γ} {first second : String}
    (hne : first ≠ second) {j : Json} {c : γ}
    (h : (do match ← slots? [first, second] j with
      | [a, b] =>
        return make (← a.getD readFirst standardFirst) (← b.getD readSecond standardSecond)
      | _ => none) = some c) :
    c = make ((said? readFirst [first, second] first (some j)).getD standardFirst)
      ((said? readSecond [first, second] second (some j)).getD standardSecond) := by
  obtain ⟨slots, hslots, h⟩ := Option.bind_eq_some_iff.1 h
  have hvalues := map_value?_of_slots? (by simp [hne]) hslots
  -- As many slots are found as there are fields; the other lengths give no section.
  rcases slots with _ | ⟨a, _ | ⟨b, _ | _⟩⟩ <;> simp only [reduceCtorEq] at h
  obtain ⟨x, hx, h⟩ := Option.bind_eq_some_iff.1 h
  obtain ⟨y, hy, h⟩ := Option.bind_eq_some_iff.1 h
  -- Each slot holds what the document has for its field.
  simp only [List.map_cons, List.map_nil, List.cons.injEq, and_true] at hvalues
  cases h
  rw [Slot.eq_said hx, Slot.eq_said hy, hvalues.1, hvalues.2]
  rfl

end Slots

/-! Each section is what the document says in it, and the standard values of what it leaves out. A
section that is left out says nothing. -/

namespace GeneralConfig

/-- The section with this content. -/
def ofSection (content : Option Json) : GeneralConfig where
  output := (said? OutputFormat.ofJson? fields "default_output" content).getD standard.output
  color := (said? ColorChoice.ofJson? fields "color" content).getD standard.color

/-- What is read from a document is what it says, field by field. -/
theorem eq_ofSection {j : Json} {c : GeneralConfig} (h : ofJson? j = some c) :
    c = ofSection (some j) :=
  eq_of_twoFields (by decide) h

end GeneralConfig

namespace NetworkConfig

/-- The section with this content. -/
def ofSection (content : Option Json) : NetworkConfig where
  apiUrl := (said? asString fields "api_url" content).getD standard.apiUrl
  timeout := (said? asUInt64 fields "timeout" content).getD standard.timeout
  connectTimeout := (said? asUInt64 fields "connect_timeout" content).getD standard.connectTimeout
  retries := (said? asUInt32 fields "retries" content).getD standard.retries
  retryDelay := (said? asUInt64 fields "retry_delay" content).getD standard.retryDelay
  busyRetryDelay :=
    (said? asUInt64 fields "busy_retry_delay_ms" content).getD standard.busyRetryDelay

/-- What is read from a document is what it says, field by field. -/
theorem eq_ofSection {j : Json} {c : NetworkConfig} (h : ofJson? j = some c) :
    c = ofSection (some j) := by
  obtain ⟨slots, hslots, h⟩ := Option.bind_eq_some_iff.1 h
  have hvalues := map_value?_of_slots? (by decide) hslots
  rcases slots with _ | ⟨r, _ | ⟨s, _ | ⟨t, _ | ⟨u, _ | ⟨v, _ | ⟨w, _ | _⟩⟩⟩⟩⟩⟩ <;>
    simp only [reduceCtorEq] at h
  simp only [Option.bind_eq_bind, Option.bind_eq_some_iff] at h
  obtain ⟨url, hurl, timeout, htimeout, connect, hconnect, retries, hretries, delay, hdelay, busy,
    hbusy, h⟩ := h
  simp only [List.map_cons, List.map_nil, List.cons.injEq, and_true] at hvalues
  cases h
  rw [Slot.eq_said hurl, Slot.eq_said htimeout, Slot.eq_said hconnect, Slot.eq_said hretries,
    Slot.eq_said hdelay, Slot.eq_said hbusy, hvalues.1, hvalues.2.1, hvalues.2.2.1,
    hvalues.2.2.2.1, hvalues.2.2.2.2.1, hvalues.2.2.2.2.2]
  rfl

end NetworkConfig

namespace ResolverPolicy

/-- The section with this content. -/
def ofSection (content : Option Json) : ResolverPolicy where
  preferredLine := (said? StableLine.ofJson? fields "preferred_core_line" content).or none
  lowVersionMajor :=
    (said? asUInt32 fields "low_version_major" content).getD standard.lowVersionMajor

/-- A value that may be `null` is nothing then, like one that is left out. -/
theorem getD_bind_asOption {α : Type} {read : Json → Option α} (hnull : read .null = none)
    (value? : Option Json) :
    (value?.bind (asOption read)).getD none = (value?.bind read).or none := by
  rcases value? with _ | j
  · rfl
  · rw [Option.bind_some, Option.bind_some, Option.or_none]
    -- The reader behind `asOption` never sees `null`, but it reads nothing from it either.
    by_cases hj : j = .null
    · rw [hj, hnull]
      rfl
    · have hmap : asOption read j = (read j).map some := by
        rw [asOption]
        exact hj
      rw [hmap]
      cases read j <;> rfl

/-- What is read from a document is what it says, with a preferred line that is `null` as one that
is left out. -/
theorem eq_ofSection {j : Json} {p : ResolverPolicy} (h : ofJson? j = some p) :
    p = ofSection (some j) := by
  have hfields := eq_of_twoFields (by decide) h
  rw [hfields, ofSection, said?, said?, getD_bind_asOption rfl]
  rfl

end ResolverPolicy

namespace MirrorPolicy

/-- The section with this content. -/
def ofSection (content : Option Json) : MirrorPolicy where
  known := (said? (asList asString) fields "known" content).getD standard.known
  expectedCount := (said? asUInt64 fields "expected_count" content).getD standard.expectedCount

/-- What is read from a document is what it says, field by field. -/
theorem eq_ofSection {j : Json} {p : MirrorPolicy} (h : ofJson? j = some p) :
    p = ofSection (some j) :=
  eq_of_twoFields (by decide) h

end MirrorPolicy

namespace CatalogConfig

/-- The section with this content. -/
def ofSection (content : Option Json) : CatalogConfig where
  aliases := (said? dictionaryOfJson? fields "aliases" content).getD .empty
  floors := (said? dictionaryOfJson? fields "min_versions" content).getD .empty

/-- What is read from a document is what it says, field by field. -/
theorem eq_ofSection {j : Json} {c : CatalogConfig} (h : ofJson? j = some c) :
    c = ofSection (some j) :=
  eq_of_twoFields (by decide) h

end CatalogConfig

/-- A configuration that is read from a document is what the document says, and the standard values
of all else. -/
theorem Config.eq_config_ofDocument {j : Json} {config : Config} (h : ofJson? j = some config) :
    config = (Layer.ofDocument j).config := by
  obtain ⟨slots, hslots, h⟩ := Option.bind_eq_some_iff.1 h
  have hvalues := map_value?_of_slots? (by decide) hslots
  -- Here too there are as many slots as fields.
  rcases slots with _ | ⟨s, _ | ⟨t, _ | ⟨u, _ | ⟨v, _ | ⟨w, _ | _⟩⟩⟩⟩⟩ <;>
    simp only [reduceCtorEq] at h
  simp only [Option.bind_eq_bind, Option.bind_eq_some_iff] at h
  obtain ⟨general, hgeneral, network, hnetwork, resolver, hresolver, mirrors, hmirrors, catalog,
    hcatalog, h⟩ := h
  -- Each slot holds a section, which is what the document says in it.
  simp only [List.map_cons, List.map_nil, List.cons.injEq, and_true] at hvalues
  cases h
  rw [Slot.eq_of_getD hgeneral rfl fun _ _ => GeneralConfig.eq_ofSection,
    Slot.eq_of_getD hnetwork rfl fun _ _ => NetworkConfig.eq_ofSection,
    Slot.eq_of_getD hresolver rfl fun _ _ => ResolverPolicy.eq_ofSection,
    Slot.eq_of_getD hmirrors rfl fun _ _ => MirrorPolicy.eq_ofSection,
    Slot.eq_of_getD hcatalog rfl fun _ _ => CatalogConfig.eq_ofSection, hvalues.1, hvalues.2.1,
    hvalues.2.2.1, hvalues.2.2.2.1, hvalues.2.2.2.2]
  rfl

end Rollout
