import Rollout.Json.Decode

/-!
# The fields of a record

A record is read alike from an object and from an array. `IsRecord` says which values have the form
of a record, and `field?` is the value that either form has for a field. `Json.slots?` finds
something exactly in such values, and it finds these (`exists_slots?_iff`, `map_value?_of_slots?`).
A field that is not there has its standard value (`Slot.getD_eq_some_iff`).
-/

namespace Rollout.Json

/-! ## Single values -/

/-- A truth value is read from a truth value only. -/
theorem asBool_eq_some_iff {j : Json} {b : Bool} : asBool j = some b ↔ j = .bool b := by
  cases j <;> simp [asBool]

/-- A text is read from a text only. -/
theorem asString_eq_some_iff {j : Json} {s : String} : asString j = some s ↔ j = .string s := by
  cases j <;> simp [asString]

/-- A signed number of 64 bits is written as the integer that it is. -/
theorem asInt64_eq_some_iff {j : Json} {n : Int64} : asInt64 j = some n ↔ j = .int n.toInt := by
  have hlow : -0x8000000000000000 ≤ n.toInt := n.le_toInt
  have hhigh : n.toInt < 0x8000000000000000 := n.toInt_lt
  cases j with
  | int m =>
    rw [asInt64]
    constructor
    · -- Within the range an integer and the number that it is read as determine each other.
      intro h
      split at h
      · next hrange =>
        cases h
        rw [Int64.toInt_ofInt_of_le hrange.1 hrange.2]
      · contradiction
    · intro h
      cases h
      rw [if_pos ⟨hlow, hhigh⟩, Int64.ofInt_toInt]
  | _ => simp [asInt64]

section Optional

variable {α : Type} {read : Json → Option α}

/-- Only `null` stands for nothing. -/
theorem asOption_eq_some_none_iff {j : Json} : asOption read j = some none ↔ j = .null := by
  cases j <;> simp [asOption]

/-- Anything else must be readable. -/
theorem asOption_eq_some_some_iff {j : Json} {x : α} :
    asOption read j = some (some x) ↔ j ≠ .null ∧ read j = some x := by
  cases j <;> simp [asOption]

end Optional

/-! ## What there is for a field -/

namespace Slot

variable {α : Type}

/-- The value of a field, if it is there. -/
def value? : Slot → Option Json
  | given j => some j
  | _ => none

/-- A field that must be there is read from its value. -/
theorem required_eq (read : Json → Option α) (slot : Slot) :
    slot.required read = slot.value?.bind read := by
  cases slot <;> rfl

/-- A field with a standard value is read from its value, if it is there. -/
theorem getD_eq (read : Json → Option α) (standard : α) (slot : Slot) :
    slot.getD read standard = slot.value?.elim (some standard) read := by
  cases slot <;> rfl

/-- A field that is not there has its standard value, and any other the value that is read. -/
theorem getD_eq_some_iff {read : Json → Option α} {standard a : α} {slot : Slot} :
    slot.getD read standard = some a ↔
      slot.value? = none ∧ a = standard ∨ ∃ j, slot.value? = some j ∧ read j = some a := by
  cases slot <;> simp [getD, value?, eq_comm]

end Slot

/-! ## Records -/

/-- An object with none of the fields twice, or an array with no more values than fields. -/
def IsRecord (fields : List String) : Json → Prop
  | object members => ∀ f ∈ fields, members.countP (·.1 == f) ≤ 1
  | array items => items.length ≤ fields.length
  | _ => False

/-- The value of a field of a record, by its name in an object and by its place in an array. -/
def field? (fields : List String) (name : String) : Json → Option Json
  | object members => members.lookup name
  | array items => items[fields.idxOf name]?
  | _ => none

/-- Fields are found in records only. -/
theorem exists_slots?_iff {fields : List String} {j : Json} :
    (∃ slots, slots? fields j = some slots) ↔ IsRecord fields j := by
  cases j with
  | object members =>
    -- Reading an object fails only if one of the fields is there twice.
    have htwice : (fields.any fun f => 1 < members.countP (·.1 == f)) = false ↔
        IsRecord fields (.object members) := by
      simp [IsRecord, List.any_eq_false]
    rw [← htwice, slots?]
    split <;> simp_all
  | array items =>
    rw [IsRecord, slots?]
    split <;> simp <;> omega
  | _ => simp [slots?, IsRecord]

/-- What there is for the fields of a record are their values. -/
theorem map_value?_of_slots? {fields : List String} (hnodup : fields.Nodup) {j : Json}
    {slots : List Slot} (h : slots? fields j = some slots) :
    slots.map Slot.value? = fields.map (field? fields · j) := by
  cases j with
  | object members =>
    simp only [slots?] at h
    split at h
    · contradiction
    · cases h
      rw [List.map_map]
      refine List.map_congr_left fun name _ => ?_
      dsimp only [Function.comp, field?]
      cases members.lookup name <;> rfl
  | array items =>
    simp only [slots?] at h
    split at h
    · contradiction
    next hshort =>
    cases h
    -- The values of an array come first; what is left of the fields has none.
    have hlength : items.length + (fields.length - items.length) = fields.length := by omega
    refine List.ext_getElem (by simp [hlength]) fun i hi hi' => ?_
    have hfield : i < fields.length := by simpa using hi'
    have hplace : fields.idxOf fields[i] = i := hnodup.idxOf_getElem i hfield
    simp only [List.getElem_map, field?, hplace]
    by_cases hitem : i < items.length
    · rw [List.getElem_append_left (by simpa using hitem), List.getElem_map,
        List.getElem?_eq_getElem hitem]
      rfl
    · rw [List.getElem_append_right (by simpa using hitem), List.getElem_replicate,
        List.getElem?_eq_none (by omega)]
      rfl
  | _ => simp [slots?] at h

end Rollout.Json
