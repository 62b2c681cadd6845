import Rollout.Json.Token

/-!
# Reading JSON

The tokens are taken one by one by a machine with a stack: one frame for each array or object that
is still open. `Json.read?` gives the value of a text that holds exactly one.
-/

namespace Rollout.Json

/-- An array or object that is still open, latest part first. The members are `none` once a member
name cannot be read. -/
inductive Frame where
  | list (items : List Json)
  | record (members : Option (List (String × Json)))
  /-- An object that waits for the value of a member. -/
  | member (members : Option (List (String × Json))) (key : Option String)

/-- What the machine waits for. -/
inductive Reading where
  /-- A value, or the end of the array that has just been opened if `mayClose`. -/
  | value (frames : List Frame) (mayClose : Bool)
  /-- A member name, or the end of the object that has just been opened if `mayClose`. -/
  | name (frames : List Frame) (members : Option (List (String × Json))) (mayClose : Bool)
  /-- The colon after a member name. -/
  | colon (frames : List Frame) (members : Option (List (String × Json))) (key : Option String)
  /-- A comma or the end of the innermost array or object. -/
  | next (frames : List Frame)
  /-- Nothing more. -/
  | done (value : Json)

namespace Reading

/-- The object with these members. -/
def close : Option (List (String × Json)) → Json
  | some members => object members.reverse
  | none => skippable

/-- Puts a finished value where it belongs. -/
def deliver (value : Json) : List Frame → Option Reading
  | [] => some (done value)
  | .list items :: frames => some (next (.list (value :: items) :: frames))
  | .member members key :: frames =>
    some (next (.record (members.bind fun ms => key.map fun key => (key, value) :: ms) :: frames))
  | .record _ :: _ => none

/-- Takes one token. -/
def step : Reading → Token → Option Reading
  | value frames _, .scalar j => deliver j frames
  | value frames _, .text (some s) => deliver (string s) frames
  | value frames _, .text none => deliver skippable frames
  | value frames _, .openList => some (value (.list [] :: frames) true)
  | value frames _, .openRecord => some (name frames (some []) true)
  | value (.list _ :: frames) true, .closeList => deliver (array []) frames
  | name frames members _, .text key => some (colon frames members key)
  | name frames members true, .closeRecord => deliver (close members) frames
  | colon frames members key, .colon => some (value (.member members key :: frames) false)
  | next (.list items :: frames), .comma => some (value (.list items :: frames) false)
  | next (.list items :: frames), .closeList => deliver (array items.reverse) frames
  | next (.record members :: frames), .comma => some (name frames members false)
  | next (.record members :: frames), .closeRecord => deliver (close members) frames
  | _, _ => none

end Reading

/-- The value of a text that holds exactly one. -/
def read? (s : String) : Option Json := do
  let tokens ← Token.ofText? s.toList
  match ← tokens.foldlM Reading.step (.value [] false) with
  | .done value => some value
  | _ => none

end Rollout.Json
