import Rollout.Document.Artifact
import Rollout.Proofs.Json.ReadBack

/-!
# Artifacts and catalogs are read back
-/

namespace Rollout

open Json

/-- A component is read back from its name. -/
theorem Component.readsBack : ReadsBack toJson ofJson? :=
  readsBack_named ofName?_name

/-- An edition is read back from its name. -/
theorem Edition.readsBack : ReadsBack toJson ofJson? :=
  readsBack_named ofName?_name

/-- An origin is read back from its name. -/
theorem Origin.readsBack : ReadsBack toJson ofJson? :=
  readsBack_named ofName?_name

/-- A line is read back from its own text, which has no blank characters around it. -/
theorem StableLine.parse_text (line : StableLine) : parse line.text = .ok line := by
  have hsame : String.ofList (Text.trim line.text.toList) = line.text := by
    rw [line.trim_text, String.ofList_toList]
  cases hparse : parse line.text with
  | ok found =>
    -- What is parsed has the text that it is parsed from, and a line is its text.
    have htext : found.text = line.text := by
      rw [← String.ofList_toList (s := found.text), text_of_parse hparse, hsame]
    cases found
    cases line
    cases htext
    rfl
  | error cause =>
    -- A refusal would contradict that a line has the segments of a line.
    simp only [parse, hsame] at hparse
    rw [dif_pos ⟨line.length_segments, line.nonempty_segments⟩] at hparse
    contradiction

/-- A line is read back from its text. -/
theorem StableLine.readsBack : ReadsBack toJson ofJson? := by
  refine ⟨fun line => ?_, fun line => .string line.text⟩
  unfold ofJson? toJson
  rw [readsBack_string.read_write, Option.bind_some, line.parse_text]
  rfl

/-- A key is read back, with or without a release. -/
theorem Key.readsBack : ReadsBack toJson ofJson? := by
  refine ⟨fun key => ?_, fun key => ?_⟩
  · have hslots : slots? ["version", "release", "checksum"] key.toJson =
        some [.given (.string key.version), .given (.ofOption .string key.release),
          .given (.string key.checksum)] :=
      slots?_members rfl (by decide)
    unfold ofJson?
    rw [hslots]
    simp [Slot.required_write readsBack_string, Slot.nullable_write readsBack_string]
  · simp [toJson, isPlain_object_iff, isPlain_ofOption]

/-- A release that is missing is left out, and an empty one is not. -/
theorem Artifact.readsBack : ReadsBack toJson ofJson? := by
  refine ⟨fun a => ?_, fun a => ?_⟩
  · obtain ⟨version, release, checksum, edition, size, origin⟩ := a
    -- The field of the release is there exactly if there is a release.
    have hslots : slots? ["version", "release", "checksum", "edition", "estimated_size_bytes",
        "origin"] (toJson ⟨version, release, checksum, edition, size, origin⟩) =
        some [.given (.string version), .ofValue? (release.map .string),
          .given (.string checksum), .given edition.toJson, .given (.ofUInt64 size),
          .given origin.toJson] := by
      cases release with
      | none => exact slots?_object (by simp)
      | some release => exact slots?_object (by simp)
    -- Either way the release is what its field says.
    have hrelease : (Slot.ofValue? (release.map .string)).getD (asOption asString) none =
        some release := by
      cases release <;> rfl
    unfold ofJson?
    rw [hslots]
    simp [Slot.required_write readsBack_string, Slot.required_write Edition.readsBack,
      Slot.required_write Origin.readsBack, Slot.getD_write readsBack_uint64, hrelease]
  · obtain ⟨version, release, checksum, edition, size, origin⟩ := a
    cases release <;>
      simp [toJson, isPlain_object_iff, Edition.readsBack.isPlain, Origin.readsBack.isPlain,
        readsBack_uint64.isPlain]

namespace ByComponent

variable {α : Type} {write : α → Json} {read : Json → Option α}

/-- Setting the values that a table has for some components makes another table agree with it
there. -/
theorem get_foldl_set (t : ByComponent (Option α)) (cs : List Component)
    (initial : ByComponent (Option α)) (c : Component) :
    ((cs.filterMap fun c => (t.get c).map (c, ·)).foldl (fun t p => t.set p.1 (some p.2))
      initial).get c = if c ∈ cs ∧ (t.get c).isSome then t.get c else initial.get c := by
  induction cs generalizing initial with
  | nil => simp
  | cons d cs ih =>
    -- The first component is set only if the table has a value for it.
    cases hd : t.get d with
    | none =>
      rw [List.filterMap_cons_none (by rw [hd]; rfl), ih]
      -- What is set for another component does not count for this one.
      by_cases hc : c = d <;> simp [hc, hd]
    | some x =>
      rw [List.filterMap_cons_some (by rw [hd]; rfl), List.foldl_cons, ih]
      by_cases hc : c = d
      · simp [hc, hd]
      · have hset : (initial.set d (some x)).get c = initial.get c := get_set_of_ne _ _ (Ne.symm hc)
        simp [hc, hset]

/-- A table is read back from its components with their values. -/
theorem readsBack (h : ReadsBack write read) : ReadsBack (toJson write) (ofJson? read) := by
  refine ⟨fun t => ?_, fun t => ?_⟩
  · -- The pairs that are read are those that were written, and setting all makes the table again.
    have hpairs : asPairs Component.ofName? read (toJson write t) = some t.present := by
      refine mapM_map_eq_some (fun p => ?_) t.present
      simp [h.read_write p.2]
    unfold ofJson?
    rw [hpairs, Option.map_some]
    congr 1
    refine ext_get fun c => ?_
    refine (get_foldl_set t Component.all _ c).trans ?_
    cases hget : t.get c <;> simp
  · refine .object fun m hm => ?_
    obtain ⟨p, -, rfl⟩ := List.mem_map.1 hm
    exact h.isPlain p.2

end ByComponent

/-- A catalog is read back as the table of its lists. -/
theorem Catalog.readsBack : ReadsBack toJson ofJson? := by
  have htable := ByComponent.readsBack Artifact.readsBack.list
  refine ⟨fun catalog => ?_, fun catalog => htable.isPlain catalog.lists⟩
  show (ByComponent.ofJson? _ (ByComponent.toJson _ catalog.lists)).map mk = some catalog
  rw [htable.read_write, Option.map_some]

/-- A selection is read back as the table of its artifacts. -/
theorem Selection.readsBack : ReadsBack toJson ofJson? := by
  have htable := ByComponent.readsBack Artifact.readsBack
  refine ⟨fun selection => ?_, fun selection => htable.isPlain selection.chosen⟩
  show (ByComponent.ofJson? _ (ByComponent.toJson _ selection.chosen)).map mk = some selection
  rw [htable.read_write, Option.map_some]

end Rollout
