import Rollout.Json

/-!
# Writing JSON

`Json.compact` writes a value without any space, `Json.pretty` with one item or member to a line and
two spaces for each level.
-/

namespace Rollout.Json

/-- The digits of a code unit below 256 after `\u00`. -/
def twoHexDigits (n : Nat) : List Char :=
  [Nat.digitChar (n / 16), Nat.digitChar (n % 16)]

/-- A character as it is written between quotes. -/
def escape (c : Char) : List Char :=
  match c with
  | '"' => ['\\', '"']
  | '\\' => ['\\', '\\']
  | '\x08' => ['\\', 'b']
  | '\x0c' => ['\\', 'f']
  | '\n' => ['\\', 'n']
  | '\r' => ['\\', 'r']
  | '\t' => ['\\', 't']
  | c => if c.toNat < 0x20 then ['\\', 'u', '0', '0'] ++ twoHexDigits c.toNat else [c]

/-- A text between quotes. -/
def quote (s : String) : String :=
  "\"" ++ String.ofList (s.toList.flatMap escape) ++ "\""

/-- The text of a value without parts. -/
def scalarText : Json → String
  | bool true => "true"
  | bool false => "false"
  | int n => toString n
  | real spelling => spelling
  | string s => quote s
  | _ => "null"

/-- The value without any space. -/
def compact : Json → String
  | array items => "[" ++ String.intercalate "," (compactItems items) ++ "]"
  | object members => "\x7b" ++ String.intercalate "," (compactMembers members) ++ "\x7d"
  | j => scalarText j
where
  /-- The items of an array. -/
  compactItems : List Json → List String
    | [] => []
    | j :: js => j.compact :: compactItems js
  /-- The members of an object. -/
  compactMembers : List (String × Json) → List String
    | [] => []
    | (name, j) :: ms => (quote name ++ ":" ++ j.compact) :: compactMembers ms

/-- Parts between brackets, each on a line of its own at the given level. -/
def block (level : Nat) (left right : String) (parts : List String) : String :=
  match parts with
  | [] => left ++ right
  | _ =>
    let indent (n : Nat) := String.ofList (List.replicate (2 * n) ' ')
    left ++ "\n" ++
      String.intercalate ",\n" (parts.map (indent (level + 1) ++ ·)) ++
      "\n" ++ indent level ++ right

/-- The value at a level, one item or member to a line. -/
def prettyAt (level : Nat) : Json → String
  | array items => block level "[" "]" (prettyItems (level + 1) items)
  | object members => block level "\x7b" "\x7d" (prettyMembers (level + 1) members)
  | j => scalarText j
where
  /-- The items of an array. -/
  prettyItems (level : Nat) : List Json → List String
    | [] => []
    | j :: js => j.prettyAt level :: prettyItems level js
  /-- The members of an object. -/
  prettyMembers (level : Nat) : List (String × Json) → List String
    | [] => []
    | (name, j) :: ms => (quote name ++ ": " ++ j.prettyAt level) :: prettyMembers level ms

/-- The value with one item or member to a line. -/
def pretty (j : Json) : String :=
  j.prettyAt 0

end Rollout.Json
