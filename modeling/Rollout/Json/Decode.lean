import Rollout.Json

/-!
# Reading domain values out of JSON values

A reader takes a JSON value apart and gives a value of the domain, or nothing if the forms do not
agree. A record is an object, or an array of its fields in order; `Json.slots?` finds what there is
for each field in either form, and the functions on `Slot` say what holds for a field that is not
there. An object may have members of any other name, but none of the known ones twice.
-/

namespace Rollout.Json

/-- What a record has for one of its fields. -/
inductive Slot where
  /-- The field's value. -/
  | given (value : Json)
  /-- Nothing, in an object. -/
  | missing
  /-- Nothing, in an array that ends before the field. -/
  | short

namespace Slot

variable {α : Type}

/-- A field that must be there. -/
def required (read : Json → Option α) : Slot → Option α
  | given j => read j
  | _ => none

/-- A field with a value of its own for the case that it is not there. -/
def getD (read : Json → Option α) (standard : α) : Slot → Option α
  | given j => read j
  | _ => some standard

/-- A field that may be `null`, or may be left out of an object. -/
def nullable (read : Json → Option α) : Slot → Option (Option α)
  | given null => some none
  | given j => (read j).map some
  | missing => some none
  | short => none

end Slot

/-- What an object or an array has for the fields of a record. -/
def slots? (fields : List String) : Json → Option (List Slot)
  | object members =>
    if fields.any fun f => 1 < members.countP (·.1 == f) then none
    else some (fields.map fun f =>
      match members.lookup f with
      | some j => .given j
      | none => .missing)
  | array items =>
    if fields.length < items.length then none
    else some (items.map .given ++ List.replicate (fields.length - items.length) .short)
  | _ => none

variable {α : Type}

/-- A text. -/
def asString : Json → Option String
  | string s => some s
  | _ => none

/-- A truth value. -/
def asBool : Json → Option Bool
  | bool b => some b
  | _ => none

/-- A number below a bound, written as an integer. -/
def asNat (bound : Nat) : Json → Option Nat
  | int n => if 0 ≤ n ∧ n < bound then some n.toNat else none
  | _ => none

/-- An unsigned number of 64 bits. -/
def asUInt64 (j : Json) : Option UInt64 :=
  (asNat UInt64.size j).map UInt64.ofNat

/-- An unsigned number of 32 bits. -/
def asUInt32 (j : Json) : Option UInt32 :=
  (asNat UInt32.size j).map UInt32.ofNat

/-- An unsigned number of 16 bits. -/
def asUInt16 (j : Json) : Option UInt16 :=
  (asNat UInt16.size j).map UInt16.ofNat

/-- A signed number of 64 bits. -/
def asInt64 : Json → Option Int64
  | int n => if -0x8000000000000000 ≤ n ∧ n < 0x8000000000000000 then some (Int64.ofInt n) else none
  | _ => none

/-- A value or `null`. -/
def asOption (read : Json → Option α) : Json → Option (Option α)
  | null => some none
  | j => (read j).map some

/-- A list of values. -/
def asList (read : Json → Option α) : Json → Option (List α)
  | array items => items.mapM read
  | _ => none

/-- The members of an object as pairs of a key and a value, in order and with repetitions. -/
def asPairs {κ : Type} (readName : String → Option κ) (read : Json → Option α) :
    Json → Option (List (κ × α))
  | object members => members.mapM fun (name, j) => do return (← readName name, ← read j)
  | _ => none

/-- A tag with what belongs to it: a text alone, or an object of one member. -/
def asTagged : Json → Option (String × Option Json)
  | string tag => some (tag, none)
  | object [(tag, j)] => some (tag, some j)
  | _ => none

/-- A tag to which nothing belongs. -/
def asTag (j : Json) : Option String :=
  match asTagged j with
  | some (tag, none) | some (tag, some null) => some tag
  | _ => none

/-- A value of an enumeration, by its name. -/
def asNamed (ofName? : String → Option α) (j : Json) : Option α :=
  (asTag j).bind ofName?

/-- A value that is kept as it is until its form is known. It must be readable in every part, and no
deeper than reading in one piece allows, `above` levels being around it. -/
def asBuffered (above : Nat) (j : Json) : Option Json :=
  if j.isReadable ∧ above + j.depth ≤ 127 then some j else none

end Rollout.Json
