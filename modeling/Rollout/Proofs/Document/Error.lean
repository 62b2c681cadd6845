import Rollout.Document.Error
import Rollout.Proofs.Json.ReadBack

/-!
# Errors are read back

A cause is written under its tag, with a text or with a record of what it tells of. The reader is
led by the tag, so a cause is read back if what is written under its tag is.
-/

namespace Rollout

namespace Json

/-- What is written under a tag is taken apart into the tag and the content. -/
theorem asTagged_tagged (tag : String) (content : Json) :
    asTagged (tagged tag content) = some (tag, some content) :=
  rfl

/-- A plain content is plain under a tag. -/
theorem isPlain_tagged {tag : String} {content : Json} (h : content.IsPlain) :
    (tagged tag content).IsPlain := by
  simpa [tagged, isPlain_object_iff] using h

/-- A record of texts is plain. -/
theorem isPlain_texts (fields : List (String × String)) : (texts fields).IsPlain := by
  refine .object fun m hm => ?_
  obtain ⟨field, -, rfl⟩ := List.mem_map.1 hm
  exact .string field.2

/-- A record of one text is read by the name of its field. -/
theorem asText1_texts (field s : String) : asText1 field (texts [(field, s)]) = some s := by
  have hslots : slots? [field] (texts [(field, s)]) = some [.given (.string s)] :=
    slots?_members rfl (List.nodup_singleton field)
  unfold asText1
  rw [hslots]
  rfl

/-- A record of two texts is read by the names of its fields, which are different. -/
theorem asText2_texts {first second : String} (h : first ≠ second) (s t : String) :
    asText2 first second (texts [(first, s), (second, t)]) = some (s, t) := by
  have hslots : slots? [first, second] (texts [(first, s), (second, t)]) =
      some [.given (.string s), .given (.string t)] :=
    slots?_members rfl (by simpa using h)
  unfold asText2
  rw [hslots]
  rfl

end Json

open Json

namespace NetworkError

/-! Numbers are left as they are written, so that nothing computes with the bounds that they are
read with. -/

/-- A status is read back from any value that the reader of statuses understands. -/
theorem ofJson?_httpStatus {number : Json} {status : UInt16}
    (hstatus : asUInt16 number = some status) (reason : String) :
    ofJson? (tagged "HttpError" (.object [("status", number), ("message", .string reason)])) =
      some (httpStatus status reason) := by
  have hslots : slots? ["status", "message"]
      (.object [("status", number), ("message", .string reason)]) =
      some [.given number, .given (.string reason)] :=
    slots?_members rfl (by decide)
  simp [ofJson?, asTagged_tagged, hslots, Slot.required, hstatus, asString]

/-- A code is read back from any value that the reader of codes understands. -/
theorem ofJson?_rejected {number : Json} {code : Int64} (hcode : asInt64 number = some code)
    (reason : String) :
    ofJson? (tagged "ApiError" (.object [("code", number), ("message", .string reason)])) =
      some (rejected code reason) := by
  have hslots : slots? ["code", "message"]
      (.object [("code", number), ("message", .string reason)]) =
      some [.given number, .given (.string reason)] :=
    slots?_members rfl (by decide)
  simp [ofJson?, asTagged_tagged, hslots, Slot.required, hcode, asString]

/-- A failure of the network is read back from its tag and its content. -/
theorem readsBack : ReadsBack toJson ofJson? := by
  refine ⟨fun e => ?_, fun e => ?_⟩
  · -- The causes with a number are read by the lemmas above, since their numbers are not to be
    -- computed with; the others hold nothing but texts.
    cases e with
    | httpStatus status reason =>
      exact ofJson?_httpStatus (readsBack_uint16.read_write status) reason
    | rejected code reason => exact ofJson?_rejected (readsBack_int64.read_write code) reason
    | _ => simp [toJson, ofJson?, asTagged_tagged, asText1_texts, asText2_texts, asString]
  · -- A number is plain by the contract of its reader.
    cases e with
    | httpStatus status reason =>
      have hstatus := readsBack_uint16.isPlain status
      exact isPlain_tagged (isPlain_object_iff.2 (by simpa using hstatus))
    | rejected code reason =>
      have hcode := readsBack_int64.isPlain code
      exact isPlain_tagged (isPlain_object_iff.2 (by simpa using hcode))
    | _ => simp [toJson, isPlain_tagged, isPlain_texts]

end NetworkError

/-- What is wrong with a listing is read back. -/
theorem CatalogError.readsBack : ReadsBack toJson ofJson? := by
  refine ⟨fun e => ?_, fun e => ?_⟩
  · cases e <;> simp [toJson, ofJson?, asTagged_tagged, asText1_texts]
  · cases e <;> simp [toJson, isPlain_tagged, isPlain_texts]

/-- The refusal of a choice is read back. -/
theorem SelectionError.readsBack : ReadsBack toJson ofJson? := by
  refine ⟨fun e => ?_, fun e => ?_⟩
  · cases e <;> simp [toJson, ofJson?, asTagged_tagged, asText1_texts, asText2_texts]
  · cases e <;> simp [toJson, isPlain_tagged, isPlain_texts]

/-- What is wrong with a configuration is read back. -/
theorem ConfigError.readsBack : ReadsBack toJson ofJson? := by
  refine ⟨fun e => ?_, fun e => ?_⟩
  · cases e <;> simp [toJson, ofJson?, asTagged_tagged, asText1_texts, asText2_texts]
  · cases e <;> simp [toJson, isPlain_tagged, isPlain_texts]

/-- The refusal of an operation is read back. -/
theorem OperationError.readsBack : ReadsBack toJson ofJson? := by
  refine ⟨fun e => ?_, fun e => ?_⟩
  · cases e <;> simp [toJson, ofJson?, asTagged_tagged, asText1_texts]
  · cases e <;> simp [toJson, isPlain_tagged, isPlain_texts]

/-- An error is read back whatever its cause, and a cancellation, to which nothing belongs, from its
tag alone. -/
theorem Error.readsBack : ReadsBack toJson ofJson? := by
  refine ⟨fun e => ?_, fun e => ?_⟩
  · cases e with
    | network cause =>
      simp [toJson, ofJson?, asTagged_tagged, NetworkError.readsBack.read_write cause]
    | catalog cause =>
      simp [toJson, ofJson?, asTagged_tagged, CatalogError.readsBack.read_write cause]
    | selection cause =>
      simp [toJson, ofJson?, asTagged_tagged, SelectionError.readsBack.read_write cause]
    | config cause =>
      simp [toJson, ofJson?, asTagged_tagged, ConfigError.readsBack.read_write cause]
    | operation cause =>
      simp [toJson, ofJson?, asTagged_tagged, OperationError.readsBack.read_write cause]
    | internal reason => simp [toJson, ofJson?, asTagged_tagged, asString]
    | cancelled => rfl
  · cases e with
    | network cause => exact isPlain_tagged (NetworkError.readsBack.isPlain cause)
    | catalog cause => exact isPlain_tagged (CatalogError.readsBack.isPlain cause)
    | selection cause => exact isPlain_tagged (SelectionError.readsBack.isPlain cause)
    | config cause => exact isPlain_tagged (ConfigError.readsBack.isPlain cause)
    | operation cause => exact isPlain_tagged (OperationError.readsBack.isPlain cause)
    | internal reason => exact isPlain_tagged (.string reason)
    | cancelled => exact .string _

end Rollout
