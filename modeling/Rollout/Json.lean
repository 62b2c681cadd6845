/-!
# JSON values

A value keeps what a reader can tell apart: members in order and with repetitions, and whether a
number is written as an integer of 64 bits or otherwise. Two kinds of text can be skipped but not
read, half of a surrogate pair that stands alone and a number beyond all floating-point numbers;
`skippable` stands for them, and for an object with such a member name.
-/

namespace Rollout

/-- A JSON value. -/
inductive Json where
  | null
  | bool (value : Bool)
  /-- A number written as an integer between `-2 ^ 63` and `2 ^ 64 - 1`. -/
  | int (value : Int)
  /-- Any other number, with its spelling. -/
  | real (spelling : String)
  | string (value : String)
  /-- A value that is well formed and that no reader accepts. -/
  | skippable
  | array (items : List Json)
  | object (members : List (String × Json))
  deriving BEq, Repr, Inhabited

namespace Json

/-- A machine integer as a JSON value. -/
def ofUInt64 (n : UInt64) : Json :=
  int n.toNat

/-- A count as a JSON value. -/
def ofNat (n : Nat) : Json :=
  int n

/-- A value that may be missing, written as `null` then. -/
def ofOption {α : Type u} (write : α → Json) : Option α → Json
  | none => null
  | some x => write x

/-- A list of values. -/
def ofList {α : Type u} (write : α → Json) (xs : List α) : Json :=
  array (xs.map write)

/-- The value of the last member with this name. -/
def member? (j : Json) (name : String) : Option Json :=
  match j with
  | object members => members.reverse.lookup name
  | _ => none

/-- How deeply arrays and objects are nested. -/
def depth : Json → Nat
  | array items => 1 + depthOfItems items
  | object members => 1 + depthOfMembers members
  | _ => 0
where
  /-- The depth of the deepest item. -/
  depthOfItems : List Json → Nat
    | [] => 0
    | j :: js => max j.depth (depthOfItems js)
  /-- The depth of the deepest member. -/
  depthOfMembers : List (String × Json) → Nat
    | [] => 0
    | (_, j) :: ms => max j.depth (depthOfMembers ms)

/-- Whether every part of the value can be read. -/
def isReadable : Json → Bool
  | skippable => false
  | array items => itemsAreReadable items
  | object members => membersAreReadable members
  | _ => true
where
  /-- Whether every item can be read. -/
  itemsAreReadable : List Json → Bool
    | [] => true
    | j :: js => j.isReadable && itemsAreReadable js
  /-- Whether every member can be read. -/
  membersAreReadable : List (String × Json) → Bool
    | [] => true
    | (_, j) :: ms => j.isReadable && membersAreReadable ms

end Json

end Rollout
