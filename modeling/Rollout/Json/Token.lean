import Rollout.Json
import Rollout.Text.Numeral

/-!
# JSON tokens

`Token.ofText?` cuts a text into tokens. A quoted text and a plain word (a literal or a number) are
collected character by character and then read as a whole, the first by `unquote?` and the second by
`word?`.
-/

namespace Rollout.Json

open Text

/-- The smallest unit of JSON text. -/
inductive Token where
  | openList
  | closeList
  | openRecord
  | closeRecord
  | colon
  | comma
  /-- A quoted text, `none` if it holds half of a surrogate pair. -/
  | text (value : Option String)
  /-- A literal or a number. -/
  | scalar (value : Json)

namespace Token

/-- The four characters that may stand between tokens. -/
def isSpace (c : Char) : Bool :=
  c = ' ' || c = '\t' || c = '\n' || c = '\r'

/-- The tokens of one character. -/
def ofChar? : Char → Option Token
  | '[' => some openList
  | ']' => some closeList
  | '{' => some openRecord
  | '}' => some closeRecord
  | ':' => some colon
  | ',' => some comma
  | _ => none

/-- What a backslash and one more character stand for. -/
def shortEscape? : Char → Option Char
  | '"' => some '"'
  | '\\' => some '\\'
  | '/' => some '/'
  | 'b' => some '\x08'
  | 'f' => some '\x0c'
  | 'n' => some '\n'
  | 'r' => some '\r'
  | 't' => some '\t'
  | _ => none

/-- The code units and code points of what stood between two quotes. -/
def units? : List Char → Option (List Nat)
  | [] => some []
  | '\\' :: 'u' :: a :: b :: c :: d :: rest => do
    let unit ← inBase? 16 [a, b, c, d]
    return unit :: (← units? rest)
  | '\\' :: e :: rest => do
    let c ← shortEscape? e
    return c.toNat :: (← units? rest)
  | c :: rest => do
    if c = '\\' ∨ c.toNat < 0x20 then none
    return c.toNat :: (← units? rest)

/-- The text of code units, where a high and a low surrogate make one character together. -/
def ofUnits? : List Nat → Option (List Char)
  | [] => some []
  | [unit] => if 0xD800 ≤ unit ∧ unit < 0xE000 then none else some [Char.ofNat unit]
  | unit :: next :: rest =>
    if 0xD800 ≤ unit ∧ unit < 0xDC00 then
      if 0xDC00 ≤ next ∧ next < 0xE000 then
        (ofUnits? rest).map
          (Char.ofNat (0x10000 + (unit - 0xD800) * 0x400 + (next - 0xDC00)) :: ·)
      else none
    else if 0xDC00 ≤ unit ∧ unit < 0xE000 then none
    else (ofUnits? (next :: rest)).map (Char.ofNat unit :: ·)

/-- What a quoted text stands for. -/
def unquote? (s : List Char) : Option Token :=
  (units? s).map fun units => text ((ofUnits? units).map String.ofList)

/-- The parts of a number: its sign, the digits before and after the point, and the exponent, each
of the last two only if it is written. -/
structure Numeral where
  negative : Bool
  whole : List Char
  fraction : Option (List Char)
  exponent : Option (Bool × List Char)

/-- Cuts off the digits at the front, at least one. -/
def digitRun? (s : List Char) : Option (List Char × List Char) :=
  match s.takeWhile Char.isDigit with
  | [] => none
  | ds => some (ds, s.dropWhile Char.isDigit)

/-- Reads a number: no plus sign, no leading zero, and digits on both sides of a point. -/
def numeral? (s : List Char) : Option Numeral := do
  let (negative, s) := match s with
    | '-' :: s => (true, s)
    | s => (false, s)
  let (whole, s) ← digitRun? s
  if whole.head? = some '0' ∧ whole.length ≠ 1 then none
  let (fraction, s) ← match s with
    | '.' :: s => (digitRun? s).map fun (ds, s) => (some ds, s)
    | s => some (none, s)
  let (exponent, s) ← match s with
    | e :: s =>
      if e = 'e' ∨ e = 'E' then
        let (down, s) := match s with
          | '-' :: s => (true, s)
          | '+' :: s => (false, s)
          | s => (false, s)
        (digitRun? s).map fun (ds, s) => (some (down, ds), s)
      else none
    | [] => some (none, [])
  if s = [] then some ⟨negative, whole, fraction, exponent⟩ else none

/-- Whether the number lies within the floating-point numbers of 64 bits. The number is a string of
digits times a power of ten; far from the limit its length and the power decide. -/
def Numeral.isFinite (n : Numeral) : Bool :=
  let fraction := n.fraction.getD []
  let mantissa := ((digits? (n.whole ++ fraction)).getD 0)
  let places : Int := match n.exponent with
    | none => 0
    | some (down, ds) => let e : Int := (digits? ds).getD 0; if down then -e else e
  let power := places - fraction.length
  let magnitude := (toString mantissa).length + power
  let limit := Nat.pow 2 1024 - Nat.pow 2 970
  if mantissa = 0 ∨ magnitude ≤ 300 then true
  else if magnitude > 320 then false
  else if 0 ≤ power then mantissa * Nat.pow 10 power.toNat < limit
  else mantissa < limit * Nat.pow 10 (-power).toNat

/-- The value of a number, an integer only if it is written as one and fits. -/
def Numeral.value (n : Numeral) (spelling : String) : Json :=
  let magnitude : Int := (digits? n.whole).getD 0
  if n.fraction = none ∧ n.exponent = none ∧ n.negative = false ∧ magnitude < UInt64.size then
    int magnitude
  else if n.fraction = none ∧ n.exponent = none ∧ n.negative = true ∧ 0 < magnitude ∧
      magnitude ≤ 0x8000000000000000 then
    int (-magnitude)
  else if n.isFinite then real spelling
  else skippable

/-- A literal or a number. -/
def word? (s : List Char) : Option Token :=
  match String.ofList s with
  | "null" => some (scalar null)
  | "true" => some (scalar (bool true))
  | "false" => some (scalar (bool false))
  | spelling => (numeral? s).map fun n => scalar (n.value spelling)

/-- What is being collected, latest character first. -/
inductive Mode where
  /-- Nothing. -/
  | between
  /-- A literal or a number. -/
  | word (chars : List Char)
  /-- A quoted text. -/
  | quoted (chars : List Char)
  /-- A quoted text, just after a backslash. -/
  | escaped (chars : List Char)

/-- The state of cutting: what is being collected, and the tokens so far, latest first. -/
structure Cut where
  mode : Mode
  tokens : List Token

/-- Takes a character that is not part of a word or quoted text already begun. -/
def Cut.start (tokens : List Token) (c : Char) : Cut :=
  if isSpace c then ⟨.between, tokens⟩
  else if c = '"' then ⟨.quoted [], tokens⟩
  else match ofChar? c with
    | some token => ⟨.between, token :: tokens⟩
    | none => ⟨.word [c], tokens⟩

/-- Takes one character. -/
def Cut.step (cut : Cut) (c : Char) : Option Cut :=
  match cut.mode with
  | .between => some (start cut.tokens c)
  | .word chars =>
    if isSpace c ∨ c = '"' ∨ (ofChar? c).isSome then
      (word? chars.reverse).map fun token => start (token :: cut.tokens) c
    else some ⟨.word (c :: chars), cut.tokens⟩
  | .quoted chars =>
    if c = '"' then (unquote? chars.reverse).map fun token => ⟨.between, token :: cut.tokens⟩
    else if c = '\\' then some ⟨.escaped (c :: chars), cut.tokens⟩
    else some ⟨.quoted (c :: chars), cut.tokens⟩
  | .escaped chars => some ⟨.quoted (c :: chars), cut.tokens⟩

/-- Ends the text. -/
def Cut.finish (cut : Cut) : Option (List Token) :=
  match cut.mode with
  | .between => some cut.tokens.reverse
  | .word chars => (word? chars.reverse).map fun token => (token :: cut.tokens).reverse
  | .quoted _ | .escaped _ => none

/-- The tokens of a text. -/
def ofText? (s : List Char) : Option (List Token) := do
  (← s.foldlM Cut.step ⟨.between, []⟩).finish

end Token

end Rollout.Json
