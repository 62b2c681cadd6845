import Rollout.Document.Event
import Rollout.Proofs.Document.Artifact

/-!
# Events are read back

The kind that is written first leads the reader to the names of the fields that follow
(`Event.fieldsOf?_content`) and to their readers (`Event.ofFields?_content`). The content is
buffered on the way, which loses nothing since it is plain and flat.
-/

namespace Rollout

namespace Json

/-- A bound for each item bounds the depth of all. -/
theorem depthOfItems_le {items : List Json} {n : Nat} (h : ∀ j ∈ items, j.depth ≤ n) :
    depth.depthOfItems items ≤ n := by
  induction items with
  | nil => exact Nat.zero_le n
  | cons j items ih =>
    obtain ⟨hj, hitems⟩ := List.forall_mem_cons.1 h
    exact Nat.max_le.2 ⟨hj, ih hitems⟩

/-- A bound for each member bounds the depth of all. -/
theorem depthOfMembers_le {members : List (String × Json)} {n : Nat}
    (h : ∀ m ∈ members, m.2.depth ≤ n) : depth.depthOfMembers members ≤ n := by
  induction members with
  | nil => exact Nat.zero_le n
  | cons m members ih =>
    obtain ⟨hm, hmembers⟩ := List.forall_mem_cons.1 h
    exact Nat.max_le.2 ⟨hm, ih hmembers⟩

/-- A list is one level deeper than its values. -/
theorem depth_ofList_le {α : Type} {write : α → Json} {n : Nat} (h : ∀ x, (write x).depth ≤ n)
    (xs : List α) : (ofList write xs).depth ≤ 1 + n := by
  refine Nat.add_le_add_left (depthOfItems_le fun j hj => ?_) 1
  obtain ⟨x, -, rfl⟩ := List.mem_map.1 hj
  exact h x

/-- A plain value that is not too deep is buffered as it is. -/
theorem asBuffered_of_isPlain {above : Nat} {j : Json} (hplain : j.IsPlain)
    (hdepth : above + j.depth ≤ 127) : asBuffered above j = some j :=
  if_pos ⟨hplain.isReadable, hdepth⟩

end Json

open Json

namespace Failure

/-- A failure without a code or a hint is read back without it. -/
theorem readsBack : ReadsBack toJson ofJson? := by
  refine ⟨fun f => ?_, fun f => ?_⟩
  · obtain ⟨code, message, hint, retryable⟩ := f
    -- Its code and its hint have a field exactly if they are there.
    have hslots : slots? ["code", "message", "hint", "retryable"]
        (toJson ⟨code, message, hint, retryable⟩) =
        some [.ofValue? (code.map .string), .given (.string message),
          .ofValue? (hint.map .string), .given (.bool retryable)] := by
      cases code <;> cases hint <;> exact slots?_object (by simp)
    -- Either way each is what its field says.
    have htext (s : Option String) :
        (Slot.ofValue? (s.map .string)).nullable asString = some s := by
      cases s <;> rfl
    unfold ofJson?
    rw [hslots]
    simp [Slot.required_write readsBack_string, Slot.required_write readsBack_bool, htext]
  · obtain ⟨code, message, hint, retryable⟩ := f
    cases code <;> cases hint <;> simp [toJson, isPlain_object_iff]

/-- Nothing of a failure has parts. -/
theorem depth_toJson (f : Failure) : f.toJson.depth ≤ 1 := by
  obtain ⟨code, message, hint, retryable⟩ := f
  cases code <;> cases hint <;> simp [toJson, depth, depth.depthOfMembers]

end Failure

/-- A source is read back from its name. -/
theorem Source.readsBack : ReadsBack (fun source => .string (name source)) (asNamed ofName?) :=
  readsBack_named fun source => by cases source <;> rfl

namespace Event

/-- The fields that are looked for are those that are written. -/
theorem fieldsOf?_content (e : Event) :
    fieldsOf? e.source e.content.1 = some (e.content.2.map Prod.fst) := by
  cases e <;> rfl

/-- No field is written twice, and none under the name of the kind. -/
theorem nodup_content (e : Event) : ("type" :: e.content.2.map Prod.fst).Nodup := by
  cases e <;> simp [content]

/-- The values of the fields make the same event again. -/
theorem ofFields?_content (e : Event) :
    ofFields? e.content.1 (e.content.2.map fun m => .given m.2) = some e := by
  -- For each kind of event the reader of a field undoes the writer of the same field.
  cases e <;>
    simp [content, ofFields?, Slot.required_write readsBack_string,
      Slot.required_write readsBack_bool, Slot.required_write readsBack_uint32,
      Slot.required_write readsBack_uint64, Slot.required_write Failure.readsBack,
      Slot.required_write Component.readsBack, Slot.required_write Edition.readsBack,
      Slot.required_write readsBack_string.list, Slot.required_write Component.readsBack.list,
      Slot.nullable_write readsBack_string]

/-- Every field is plain. -/
theorem isPlain_content (e : Event) : ∀ m ∈ e.content.2, m.2.IsPlain := by
  cases e <;>
    simp [content, readsBack_uint32.isPlain, readsBack_uint64.isPlain, Failure.readsBack.isPlain,
      Component.readsBack.isPlain, Edition.readsBack.isPlain, readsBack_string.list.isPlain,
      Component.readsBack.list.isPlain, isPlain_ofOption]

/-- A field is a single value, a list of single values or a failure. -/
theorem depth_content (e : Event) : ∀ m ∈ e.content.2, m.2.depth ≤ 1 := by
  have htexts (xs : List String) : (ofList string xs).depth ≤ 1 + 0 :=
    depth_ofList_le (fun _ => Nat.le_refl 0) xs
  have hcomponents (xs : List Component) : (ofList Component.toJson xs).depth ≤ 1 + 0 :=
    depth_ofList_le (fun _ => Nat.le_refl 0) xs
  have htext (x : Option String) : (ofOption string x).depth ≤ 1 := by
    cases x <;> exact Nat.zero_le 1
  cases e <;>
    simp [content, depth, ofNat, ofUInt64, Component.toJson, Edition.toJson, htexts, hcomponents,
      htext, Failure.depth_toJson]

/-- The content of an event as it is written. -/
def contentToJson (e : Event) : Json :=
  .object (("type", .string e.content.1) :: e.content.2)

/-- The content of an event is plain. -/
theorem isPlain_contentToJson (e : Event) : e.contentToJson.IsPlain :=
  .object (List.forall_mem_cons.2 ⟨.string _, e.isPlain_content⟩)

/-- The content of an event is a record of fields that are at most lists or failures. -/
theorem depth_contentToJson (e : Event) : e.contentToJson.depth ≤ 2 := by
  have hmembers : depth.depthOfMembers (("type", .string e.content.1) :: e.content.2) ≤ 1 :=
    depthOfMembers_le (List.forall_mem_cons.2 ⟨Nat.zero_le 1, e.depth_content⟩)
  rw [contentToJson, depth]
  omega

/-- What is written of the content makes the same event again. -/
theorem ofContent?_contentToJson (e : Event) :
    ofContent? e.source e.contentToJson = some e := by
  have hslots : slots? ("type" :: e.content.2.map Prod.fst) e.contentToJson =
      some (.given (.string e.content.1) :: e.content.2.map fun m => .given m.2) :=
    slots?_members rfl e.nodup_content
  unfold contentToJson at hslots ⊢
  simp [ofContent?, asString, e.fieldsOf?_content, hslots, e.ofFields?_content]

/-- Every event is read back, whichever source it comes from. -/
theorem readsBack : ReadsBack toJson ofJson? := by
  refine ⟨fun e => ?_, fun e => ?_⟩
  · have hslots : slots? ["domain", "event"] e.toJson =
        some [.given (.string e.source.name), .given e.contentToJson] :=
      slots?_members rfl (by decide)
    have hsource : (Slot.given (.string e.source.name)).required (asNamed Source.ofName?) =
        some e.source := Slot.required_write Source.readsBack e.source
    have hdepth : 1 + e.contentToJson.depth ≤ 127 :=
      Nat.le_trans (Nat.add_le_add_left e.depth_contentToJson 1) (by decide)
    have hcontent : (Slot.given e.contentToJson).required (asBuffered 1) = some e.contentToJson :=
      asBuffered_of_isPlain e.isPlain_contentToJson hdepth
    unfold ofJson?
    rw [hslots]
    simp [hsource, hcontent, e.ofContent?_contentToJson]
  · refine .object (List.forall_mem_cons.2 ⟨.string _, ?_⟩)
    exact List.forall_mem_singleton.2 e.isPlain_contentToJson

end Event

end Rollout
