import Rollout.Document.Config
import Rollout.Proofs.Document.Artifact

/-!
# Configurations are read back

Every field of a section is written, so no standard value is needed to read it back. A dictionary is
written in the order of its texts, and read in the same order it is the same dictionary
(`Dictionary.ofList_entries`).
-/

namespace Rollout

namespace Text.Dictionary

variable {α : Type}

/-- An entry that comes after all others is put at the end. -/
theorem insertEntry_of_lt {name : String} {value : α} {entries : List (String × α)}
    (h : ∀ entry ∈ entries, entry.1 < name) :
    insertEntry name value entries = entries ++ [(name, value)] := by
  induction entries with
  | nil => rfl
  | cons entry entries ih =>
    obtain ⟨hlt, hrest⟩ := List.forall_mem_cons.1 h
    -- The name is neither before the first entry nor equal to its name, so it goes on.
    have hnot : ¬ name < entry.1 := fun hgt => String.lt_irrefl _ (String.lt_trans hlt hgt)
    have hne : name ≠ entry.1 := fun heq => String.lt_irrefl _ (heq ▸ hlt)
    rw [insertEntry, if_neg hnot, if_neg hne, ih hrest, List.cons_append]

/-- Entries in order after those of a dictionary are added to it as they are. -/
theorem entries_foldl_insert (d : Dictionary α) (later : List (String × α))
    (h : (d.entries ++ later).Pairwise fun a b => a.1 < b.1) :
    (later.foldl (fun d p => d.insert p.1 p.2) d).entries = d.entries ++ later := by
  induction later generalizing d with
  | nil => exact (List.append_nil _).symm
  | cons p later ih =>
    obtain ⟨name, value⟩ := p
    -- The first of the later entries comes after all that are there, so it is put at the end.
    have hlast : ∀ entry ∈ d.entries, entry.1 < name := fun entry hentry =>
      (List.pairwise_append.1 h).2.2 entry hentry _ List.mem_cons_self
    have hinsert : (d.insert name value).entries = d.entries ++ [(name, value)] :=
      insertEntry_of_lt hlast
    have happend : d.entries ++ (name, value) :: later =
        (d.insert name value).entries ++ later := by
      rw [hinsert, List.append_assoc]
      rfl
    rw [happend] at h ⊢
    exact ih (d.insert name value) h

/-- The entries of a dictionary make the same dictionary again. -/
theorem ofList_entries (d : Dictionary α) : ofList d.entries = d := by
  have hentries : (ofList d.entries).entries = d.entries :=
    entries_foldl_insert empty d.entries d.sorted
  cases d
  -- Dictionaries with the same entries are the same.
  generalize ofList _ = found at hentries ⊢
  cases found
  cases hentries
  rfl

end Text.Dictionary

open Json

/-- A format of the output is read back from its name. -/
theorem OutputFormat.readsBack : ReadsBack toJson ofJson? :=
  readsBack_named ofName?_name

/-- The choice of colors is read back from its name. -/
theorem ColorChoice.readsBack : ReadsBack toJson ofJson? :=
  readsBack_named ofName?_name

/-- The general section is read back. -/
theorem GeneralConfig.readsBack : ReadsBack toJson ofJson? := by
  refine ⟨fun c => ?_, fun c => ?_⟩
  · have hslots : slots? ["default_output", "color"] c.toJson =
        some [.given c.output.toJson, .given c.color.toJson] :=
      slots?_members rfl (by decide)
    unfold ofJson?
    rw [hslots]
    simp [Slot.getD_write OutputFormat.readsBack, Slot.getD_write ColorChoice.readsBack]
  · simp [toJson, isPlain_object_iff, OutputFormat.readsBack.isPlain, ColorChoice.readsBack.isPlain]

/-! The sections with numbers are read from slots of which only the results are known, so that
nothing computes with the bounds of the numbers. -/

namespace NetworkConfig

/-- The section is what its fields are read as. -/
theorem ofJson?_of_slots? {j : Json} {c : NetworkConfig}
    {apiUrl timeout connectTimeout retries retryDelay busyRetryDelay : Slot}
    (hslots : slots? ["api_url", "timeout", "connect_timeout", "retries", "retry_delay",
      "busy_retry_delay_ms"] j =
        some [apiUrl, timeout, connectTimeout, retries, retryDelay, busyRetryDelay])
    (hurl : apiUrl.getD asString standard.apiUrl = some c.apiUrl)
    (htimeout : timeout.getD asUInt64 standard.timeout = some c.timeout)
    (hconnect : connectTimeout.getD asUInt64 standard.connectTimeout = some c.connectTimeout)
    (hretries : retries.getD asUInt32 standard.retries = some c.retries)
    (hdelay : retryDelay.getD asUInt64 standard.retryDelay = some c.retryDelay)
    (hbusy : busyRetryDelay.getD asUInt64 standard.busyRetryDelay = some c.busyRetryDelay) :
    ofJson? j = some c := by
  unfold ofJson?
  rw [hslots]
  simp [hurl, htimeout, hconnect, hretries, hdelay, hbusy]

/-- The section of the network is read back. -/
theorem readsBack : ReadsBack toJson ofJson? := by
  refine ⟨fun c => ?_, fun c => ?_⟩
  · have hslots : slots? ["api_url", "timeout", "connect_timeout", "retries", "retry_delay",
        "busy_retry_delay_ms"] c.toJson =
        some [.given (.string c.apiUrl), .given (.ofUInt64 c.timeout),
          .given (.ofUInt64 c.connectTimeout), .given (.ofNat c.retries.toNat),
          .given (.ofUInt64 c.retryDelay), .given (.ofUInt64 c.busyRetryDelay)] :=
      slots?_members rfl (by decide)
    exact ofJson?_of_slots? hslots (Slot.getD_write readsBack_string _ _)
      (Slot.getD_write readsBack_uint64 _ _) (Slot.getD_write readsBack_uint64 _ _)
      (Slot.getD_write readsBack_uint32 _ _) (Slot.getD_write readsBack_uint64 _ _)
      (Slot.getD_write readsBack_uint64 _ _)
  · simp [toJson, isPlain_object_iff, readsBack_uint64.isPlain, readsBack_uint32.isPlain]

end NetworkConfig

namespace ResolverPolicy

/-- The section is what its fields are read as. -/
theorem ofJson?_of_slots? {j : Json} {p : ResolverPolicy} {line major : Slot}
    (hslots : slots? ["preferred_core_line", "low_version_major"] j = some [line, major])
    (hline : line.getD (asOption StableLine.ofJson?) none = some p.preferredLine)
    (hmajor : major.getD asUInt32 standard.lowVersionMajor = some p.lowVersionMajor) :
    ofJson? j = some p := by
  unfold ofJson?
  rw [hslots]
  simp [hline, hmajor]

/-- The section of the resolver is read back, with or without a preferred line. -/
theorem readsBack : ReadsBack toJson ofJson? := by
  have hline : ReadsBack (ofOption StableLine.toJson) (asOption StableLine.ofJson?) :=
    StableLine.readsBack.option fun _ => nofun
  refine ⟨fun p => ?_, fun p => ?_⟩
  · have hslots : slots? ["preferred_core_line", "low_version_major"] p.toJson =
        some [.given (.ofOption StableLine.toJson p.preferredLine),
          .given (.ofNat p.lowVersionMajor.toNat)] :=
      slots?_members rfl (by decide)
    exact ofJson?_of_slots? hslots (Slot.getD_write hline _ _)
      (Slot.getD_write readsBack_uint32 _ _)
  · simp [toJson, isPlain_object_iff, hline.isPlain, readsBack_uint32.isPlain]

end ResolverPolicy

namespace MirrorPolicy

/-- The section is what its fields are read as. -/
theorem ofJson?_of_slots? {j : Json} {p : MirrorPolicy} {known expectedCount : Slot}
    (hslots : slots? ["known", "expected_count"] j = some [known, expectedCount])
    (hknown : known.getD (asList asString) standard.known = some p.known)
    (hexpected : expectedCount.getD asUInt64 standard.expectedCount = some p.expectedCount) :
    ofJson? j = some p := by
  unfold ofJson?
  rw [hslots]
  simp [hknown, hexpected]

/-- The section of the mirrors is read back. -/
theorem readsBack : ReadsBack toJson ofJson? := by
  have hknown : ReadsBack (ofList string) (asList asString) := readsBack_string.list
  refine ⟨fun p => ?_, fun p => ?_⟩
  · have hslots : slots? ["known", "expected_count"] p.toJson =
        some [.given (.ofList .string p.known), .given (.ofUInt64 p.expectedCount)] :=
      slots?_members rfl (by decide)
    exact ofJson?_of_slots? hslots (Slot.getD_write hknown _ _)
      (Slot.getD_write readsBack_uint64 _ _)
  · simp [toJson, isPlain_object_iff, hknown.isPlain, readsBack_uint64.isPlain]

end MirrorPolicy

/-- A dictionary is read back, in the order of its texts. -/
theorem dictionary_readsBack : ReadsBack dictionaryToJson dictionaryOfJson? := by
  refine ⟨fun d => ?_, fun d => ?_⟩
  · -- Its members are its entries, each with the text as it is.
    have hpairs : asPairs some asString (dictionaryToJson d) = some d.entries := by
      refine mapM_map_eq_some (fun entry => ?_) d.entries
      rfl
    rw [dictionaryOfJson?, hpairs, Option.map_some, Text.Dictionary.ofList_entries]
  · refine .object fun m hm => ?_
    obtain ⟨entry, -, rfl⟩ := List.mem_map.1 hm
    exact .string entry.2

/-- The section of the catalog is read back. -/
theorem CatalogConfig.readsBack : ReadsBack toJson ofJson? := by
  refine ⟨fun c => ?_, fun c => ?_⟩
  · have hslots : slots? ["aliases", "min_versions"] c.toJson =
        some [.given (dictionaryToJson c.aliases), .given (dictionaryToJson c.floors)] :=
      slots?_members rfl (by decide)
    unfold ofJson?
    rw [hslots]
    simp [Slot.getD_write dictionary_readsBack]
  · simp [toJson, isPlain_object_iff, dictionary_readsBack.isPlain]

/-- The configuration is read back section by section. -/
theorem Config.readsBack : ReadsBack toJson ofJson? := by
  refine ⟨fun c => ?_, fun c => ?_⟩
  · have hslots : slots? ["general", "network", "resolver", "mirrors", "catalog"] c.toJson =
        some [.given c.general.toJson, .given c.network.toJson, .given c.resolver.toJson,
          .given c.mirrors.toJson, .given c.catalog.toJson] :=
      slots?_members rfl (by decide)
    unfold ofJson?
    rw [hslots]
    simp [Slot.getD_write GeneralConfig.readsBack, Slot.getD_write NetworkConfig.readsBack,
      Slot.getD_write ResolverPolicy.readsBack, Slot.getD_write MirrorPolicy.readsBack,
      Slot.getD_write CatalogConfig.readsBack]
  · simp [toJson, isPlain_object_iff, GeneralConfig.readsBack.isPlain,
      NetworkConfig.readsBack.isPlain, ResolverPolicy.readsBack.isPlain,
      MirrorPolicy.readsBack.isPlain, CatalogConfig.readsBack.isPlain]

end Rollout
