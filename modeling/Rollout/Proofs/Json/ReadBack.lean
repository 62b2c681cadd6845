import Mathlib.Data.List.Nodup
import Rollout.Proofs.Json.Record

/-!
# What is written is read back

`ReadsBack write read` is the contract between a writer of values of the domain and their reader:
every value is read back from what is written of it, and what is written is plain, which means that
it survives as text. The contract holds for texts, truth values and machine integers and carries
over to values that may be missing, to lists and to names. A record keeps it if its fields do, since
an object with each field once has exactly these values for its fields (`slots?_object`,
`slots?_members`).
-/

namespace Rollout.Json

/-- A value of the kind that is written: its integers have 64 bits, and nothing in it is another
number or can only be skipped. -/
inductive IsPlain : Json → Prop where
  | null : IsPlain null
  | bool (b : Bool) : IsPlain (bool b)
  | int {n : Int} (hlow : -0x8000000000000000 ≤ n) (hhigh : n < UInt64.size) : IsPlain (int n)
  | string (s : String) : IsPlain (string s)
  | array {items : List Json} (h : ∀ j ∈ items, IsPlain j) : IsPlain (array items)
  | object {members : List (String × Json)} (h : ∀ m ∈ members, IsPlain m.2) :
      IsPlain (object members)

attribute [simp] IsPlain.null IsPlain.bool IsPlain.string

/-- An object is plain if its members are. -/
theorem isPlain_object_iff {members : List (String × Json)} :
    IsPlain (object members) ↔ ∀ m ∈ members, IsPlain m.2 :=
  ⟨fun | .object h => h, .object⟩

/-- A count is plain if it has 64 bits. -/
theorem isPlain_ofNat {n : Nat} (h : n < UInt64.size) : IsPlain (ofNat n) := by
  have hsize : (n : Int) < (UInt64.size : Nat) := Int.ofNat_lt.2 h
  exact .int (by omega) hsize

/-- A list of items is readable if each is. -/
theorem itemsAreReadable_iff {items : List Json} :
    isReadable.itemsAreReadable items = true ↔ ∀ j ∈ items, j.isReadable = true := by
  induction items with
  | nil => simp [isReadable.itemsAreReadable]
  | cons j items ih => simp [isReadable.itemsAreReadable, ih]

/-- A list of members is readable if each is. -/
theorem membersAreReadable_iff {members : List (String × Json)} :
    isReadable.membersAreReadable members = true ↔ ∀ m ∈ members, m.2.isReadable = true := by
  induction members with
  | nil => simp [isReadable.membersAreReadable]
  | cons m members ih => simp [isReadable.membersAreReadable, ih]

/-- Nothing in a plain value can only be skipped. -/
theorem IsPlain.isReadable {j : Json} (h : j.IsPlain) : j.isReadable = true := by
  induction h with
  | array _ ih => exact itemsAreReadable_iff.2 ih
  | object _ ih => exact membersAreReadable_iff.2 ih
  | _ => rfl

/-- Every value is read back from what is written of it, and what is written is plain. -/
structure ReadsBack {α : Type} (write : α → Json) (read : Json → Option α) : Prop where
  read_write : ∀ x, read (write x) = some x
  isPlain : ∀ x, (write x).IsPlain

/-- What is read back one by one is read back as a list. -/
theorem mapM_map_eq_some {α β : Type} {write : α → β} {read : β → Option α}
    (h : ∀ x, read (write x) = some x) (xs : List α) : (xs.map write).mapM read = some xs := by
  induction xs with
  | nil => rfl
  | cons x xs ih =>
    rw [List.map_cons, List.mapM_cons, h, ih]
    rfl

/-! ## Single values -/

/-- A text is read back. -/
theorem readsBack_string : ReadsBack string asString :=
  ⟨fun _ => rfl, .string⟩

/-- A truth value is read back. -/
theorem readsBack_bool : ReadsBack bool asBool :=
  ⟨fun _ => rfl, .bool⟩

/-- A count below a bound is read back under that bound. -/
theorem asNat_ofNat {bound n : Nat} (h : n < bound) : asNat bound (ofNat n) = some n := by
  have hrange : 0 ≤ (n : Int) ∧ (n : Int) < bound := ⟨Int.natCast_nonneg n, Int.ofNat_lt.2 h⟩
  rw [ofNat, asNat, if_pos hrange, Int.toNat_natCast]

/-- A count of 64 bits is read back. -/
theorem readsBack_uint64 : ReadsBack ofUInt64 asUInt64 := by
  refine ⟨fun n => ?_, fun n => isPlain_ofNat n.toNat_lt⟩
  have hread : asNat UInt64.size (ofUInt64 n) = some n.toNat := asNat_ofNat n.toNat_lt
  rw [asUInt64, hread, Option.map_some, UInt64.ofNat_toNat]

/-- A count of 32 bits is read back. -/
theorem readsBack_uint32 : ReadsBack (fun n : UInt32 => ofNat n.toNat) asUInt32 := by
  refine ⟨fun n => ?_, fun n => isPlain_ofNat (Nat.lt_trans n.toNat_lt (by decide))⟩
  rw [asUInt32, asNat_ofNat n.toNat_lt, Option.map_some, UInt32.ofNat_toNat]

/-- A count of 16 bits is read back. -/
theorem readsBack_uint16 : ReadsBack (fun n : UInt16 => ofNat n.toNat) asUInt16 := by
  refine ⟨fun n => ?_, fun n => isPlain_ofNat (Nat.lt_trans n.toNat_lt (by decide))⟩
  rw [asUInt16, asNat_ofNat n.toNat_lt, Option.map_some, UInt16.ofNat_toNat]

/-- A signed number of 64 bits is read back. -/
theorem readsBack_int64 : ReadsBack (fun n : Int64 => int n.toInt) asInt64 := by
  refine ⟨fun n => asInt64_eq_some_iff.2 rfl, fun n => .int n.le_toInt ?_⟩
  have hhigh : n.toInt < 0x8000000000000000 := n.toInt_lt
  have hsize : (UInt64.size : Int) = 0x10000000000000000 := rfl
  omega

section Closure

variable {α : Type} {write : α → Json} {read : Json → Option α}

/-- A name that leads back to its value is read back. -/
theorem readsBack_named {name : α → String} {ofName? : String → Option α}
    (h : ∀ x, ofName? (name x) = some x) :
    ReadsBack (fun x => string (name x)) (asNamed ofName?) :=
  ⟨h, fun _ => .string _⟩

/-- A value that may be missing is plain if it is plain when it is there. -/
theorem isPlain_ofOption (h : ∀ x, (write x).IsPlain) (x : Option α) :
    (ofOption write x).IsPlain := by
  cases x with
  | none => exact .null
  | some x => exact h x

/-- A list of plain values is plain. -/
theorem isPlain_ofList (h : ∀ x, (write x).IsPlain) (xs : List α) : (ofList write xs).IsPlain := by
  refine .array fun j hj => ?_
  obtain ⟨x, -, rfl⟩ := List.mem_map.1 hj
  exact h x

/-- A value that may be missing is read back if no value is written as `null`. -/
theorem ReadsBack.option (h : ReadsBack write read) (hnull : ∀ x, write x ≠ null) :
    ReadsBack (ofOption write) (asOption read) := by
  refine ⟨fun x => ?_, isPlain_ofOption h.isPlain⟩
  cases x with
  | none => rfl
  | some x => exact asOption_eq_some_some_iff.2 ⟨hnull x, h.read_write x⟩

/-- A list is read back if its values are. -/
theorem ReadsBack.list (h : ReadsBack write read) : ReadsBack (ofList write) (asList read) :=
  ⟨mapM_map_eq_some h.read_write, isPlain_ofList h.isPlain⟩

end Closure

/-! ## Records -/

namespace Slot

variable {α : Type} {write : α → Json} {read : Json → Option α}

/-- What there is for a field, given its value in an object. -/
def ofValue? : Option Json → Slot
  | some j => given j
  | none => missing

/-- A field that must be there is read back. -/
theorem required_write (h : ReadsBack write read) (x : α) :
    (given (write x)).required read = some x :=
  h.read_write x

/-- A field with a standard value is read back, since it is written. -/
theorem getD_write (h : ReadsBack write read) (standard x : α) :
    (given (write x)).getD read standard = some x :=
  h.read_write x

/-- A field that may be `null` is read back if no value is written as `null`. -/
theorem nullable_write (h : ReadsBack write read) (hnull : ∀ x, write x ≠ null) (x : Option α) :
    (given (ofOption write x)).nullable read = some x := by
  cases x with
  | none => rfl
  | some x =>
    have hread : read (write x) = some x := h.read_write x
    have hne : write x ≠ null := hnull x
    show (given (write x)).nullable read = _
    unfold nullable
    split
    · next heq => exact absurd (given.inj heq) hne
    · next heq => rw [← given.inj heq, hread, Option.map_some]
    · contradiction
    · contradiction

end Slot

/-- An object with no name twice has its values for the fields. -/
theorem slots?_object {fields : List String} {members : List (String × Json)}
    (h : (members.map Prod.fst).Nodup) :
    slots? fields (object members) = some (fields.map fun f => .ofValue? (members.lookup f)) := by
  -- No name occurs twice, so none of the fields does.
  have honce : ∀ f, members.countP (·.1 == f) ≤ 1 := by
    intro f
    have hcount := List.nodup_iff_count_le_one.1 h f
    rwa [List.count, List.countP_map] at hcount
  have hnone : (fields.any fun f => 1 < members.countP (·.1 == f)) = false := by
    rw [List.any_eq_false]
    intro f _
    have := honce f
    simpa using this
  -- Then each field has what the object has for its name.
  rw [slots?, if_neg (by rw [hnone]; exact Bool.false_ne_true)]
  rfl

/-- The values of an object that has exactly the fields are found in this order. -/
theorem slots?_members {fields : List String} {members : List (String × Json)}
    (hfields : members.map Prod.fst = fields) (hnodup : fields.Nodup) :
    slots? fields (object members) = some (members.map fun m => .given m.2) := by
  subst hfields
  -- It remains that the values are found in the order of the members, by induction on these.
  rw [slots?_object hnodup]
  congr 1
  induction members with
  | nil => rfl
  | cons m members ih =>
    obtain ⟨name, value⟩ := m
    obtain ⟨hnew, hrest⟩ := List.nodup_cons.1 hnodup
    rw [List.map_cons, List.map_cons, List.map_cons, List.lookup_cons_self, ← ih hrest]
    -- The first field is none of the others, so it does not hide their values.
    refine congrArg (Slot.given value :: ·) (List.map_congr_left fun f hf => ?_)
    have hne : f ≠ name := fun heq => hnew (heq ▸ hf)
    rw [List.lookup_cons, beq_false_of_ne hne]

end Rollout.Json
