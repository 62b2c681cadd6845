import Rollout.Toml.Quotation
import Rollout.Toml.Scalar
import Rollout.Toml.Tree

/-!
# TOML documents

A document is a sequence of lines: blank ones and comments, headers, and assignments. `Toml.read?`
gives the value of a document, a table, as a JSON object.
-/

namespace Rollout.Toml

/-- The text after blanks. -/
def skipBlanks (s : List Char) : List Char :=
  s.dropWhile fun c => c = ' ' || c = '\t'

/-- The text after a comment, if there is one here. -/
def skipComment? (s : List Char) : Option (List Char) :=
  match s with
  | '#' :: s =>
    let rest := s.dropWhile (!isControl ·)
    if rest = [] ∨ (lineBreak? rest).isSome then some rest else none
  | s => some s

/-- The text after blanks, comments and line breaks; `limit` bounds the number of lines. -/
def skipLines? : (limit : Nat) → List Char → Option (List Char)
  | 0, _ => none
  | limit + 1, s => do
    let s ← skipComment? (skipBlanks s)
    match lineBreak? s with
    | some s => skipLines? limit s
    | none => some s

/-- Whether a character may stand in a name without quotes. -/
def isBare (c : Char) : Bool :=
  c.isAlphanum || c = '-' || c = '_'

/-- One part of a name. -/
def namePart? (s : List Char) : Option (String × List Char) :=
  match s with
  | '"' :: _ | '\'' :: _ => (quoted? s).map fun (name, rest) => (String.ofList name, rest)
  | _ =>
    match s.takeWhile isBare with
    | [] => none
    | name => some (String.ofList name, s.dropWhile isBare)

/-- A name with dots between its parts, as the parts before the last one, and the last one; `limit`
bounds their number. -/
def name? : (limit : Nat) → List Char → Option ((List String × String) × List Char)
  | 0, _ => none
  | limit + 1, s => do
    let (part, s) ← namePart? (skipBlanks s)
    match skipBlanks s with
    | '.' :: s =>
      let ((path, last), s) ← name? limit s
      return ((part :: path, last), s)
    | s => return (([], part), s)

/-- A name and the equals sign after it. -/
def assigned? (s : List Char) : Option ((List String × String) × List Char) := do
  let (name, s) ← name? (s.length + 1) s
  match s with
  | '=' :: s => return (name, skipBlanks s)
  | _ => none

mutual

/-- A value; `limit` bounds the number of values. -/
def value? : (limit : Nat) → List Char → Option (Json × List Char)
  | 0, _ => none
  | limit + 1, s =>
    match s with
    | '"' :: _ | '\'' :: _ => (text? s).map fun (t, rest) => (.string (String.ofList t), rest)
    | '[' :: s => (items? limit s).map fun (items, rest) => (.array items, rest)
    | '\x7b' :: s =>
      match skipBlanks s with
      | '\x7d' :: rest => some (.object [], rest)
      | s => (members? limit [] s).map fun (entries, rest) => (entries.toJson, rest)
    | s => scalarAt? s

/-- The items of an array after its opening bracket or after a comma. -/
def items? : (limit : Nat) → List Char → Option (List Json × List Char)
  | 0, _ => none
  | limit + 1, s => do
    match ← skipLines? (s.length + 1) s with
    | ']' :: rest => return ([], rest)
    | s =>
      let (j, s) ← value? limit s
      match ← skipLines? (s.length + 1) s with
      | ',' :: s =>
        let (items, s) ← items? limit s
        return (j :: items, s)
      | ']' :: rest => return ([j], rest)
      | _ => none

/-- The members of a table in braces, at least one more, after those before. -/
def members? : (limit : Nat) → Entries → List Char → Option (Entries × List Char)
  | 0, _, _ => none
  | limit + 1, entries, s => do
    let ((path, name), s) ← assigned? s
    let (j, s) ← value? limit s
    let entries ← entries.assign path name j
    match skipBlanks s with
    | ',' :: s => members? limit entries s
    | '\x7d' :: rest => return (entries, rest)
    | _ => none

end

/-- A document that is being read: the tree, and the path of the table that assignments go to. -/
structure Reading where
  entries : Entries
  path : List String

/-- Takes a header: of a table, or with two brackets of one more of several tables. -/
def header? (r : Reading) (s : List Char) : Option (Reading × List Char) := do
  let (several, s) := match s with
    | '[' :: s => (true, s)
    | s => (false, s)
  let ((path, name), s) ← name? (s.length + 1) s
  let rest ← match several, s with
    | true, ']' :: ']' :: rest => some rest
    | false, ']' :: rest => some rest
    | _, _ => none
  let begin := if several then Entries.beginItem name else Entries.beginTable name
  let entries ← r.entries.atPath .onTheWay (fun _ => true) begin path
  return (⟨entries, path ++ [name]⟩, rest)

/-- Takes an assignment. -/
def assignment? (r : Reading) (s : List Char) : Option (Reading × List Char) := do
  let ((path, name), s) ← assigned? s
  let (j, rest) ← value? (s.length + 1) s
  let entries ← r.entries.atPath .onTheWay (fun _ => true) (Entries.assign path name j) r.path
  return ({ r with entries }, rest)

/-- Takes the lines of a document; `limit` bounds their number. -/
def lines : (limit : Nat) → Reading → List Char → Option Reading
  | 0, _, _ => none
  | limit + 1, r, s => do
    let (r, s) ← match skipBlanks s with
      | '[' :: s => header? r s
      | [] => some (r, [])
      | s =>
        if s.head? = some '#' ∨ (lineBreak? s).isSome then some (r, s) else assignment? r s
    match ← skipComment? (skipBlanks s) with
    | [] => return r
    | s => lines limit r (← lineBreak? s)

/-- The value of a document; a byte order mark at its beginning does not count. -/
def read? (s : String) : Option Json :=
  let s := match s.toList with
    | '\uFEFF' :: s => s
    | s => s
  (lines (s.length + 1) ⟨[], []⟩ s).map (·.entries.toJson)

end Rollout.Toml
