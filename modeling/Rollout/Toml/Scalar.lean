import Rollout.Json
import Rollout.Text.Numeral
import Rollout.Text.Split

/-!
# Plain values in TOML

A plain value is a truth value, a number or a time. Numbers may have underscores between digits. A
time has no counterpart among JSON values and can only be skipped.
-/

namespace Rollout.Toml

open Text

/-- The digits without the underscores between them; an underscore elsewhere is refused. -/
def plainDigits? (s : List Char) : Option (List Char) :=
  let parts := splitOn '_' s
  if parts.any (·.isEmpty) then none else some parts.flatten

/-- The value of digits in a base. -/
def digitsInBase? (base : Nat) (s : List Char) : Option Nat :=
  (plainDigits? s).bind (inBase? base)

/-- The digits of a decimal number: no leading zero, except for zero itself. -/
def decimal? (s : List Char) : Option (List Char) :=
  (plainDigits? s).filter fun ds => ds.all Char.isDigit && (ds.head? ≠ some '0' || ds.length = 1)

/-- A sign and what follows it. -/
def splitSign : List Char → Bool × List Char
  | '-' :: s => (true, s)
  | '+' :: s => (false, s)
  | s => (false, s)

/-- An integer; one that needs more than 64 bits is a number of another kind. -/
def integer? (s : List Char) : Option Json := do
  let n : Int ← match s with
    | '0' :: 'x' :: ds => (digitsInBase? 16 ds).map Int.ofNat
    | '0' :: 'o' :: ds => (digitsInBase? 8 ds).map Int.ofNat
    | '0' :: 'b' :: ds => (digitsInBase? 2 ds).map Int.ofNat
    | s => do
      let (negative, ds) := splitSign s
      let n ← (decimal? ds).bind digits?
      pure (if negative then -(n : Int) else n)
  return if -0x8000000000000000 ≤ n ∧ n < UInt64.size then .int n else .real (String.ofList s)

/-- Whether the text is the digits after a point. -/
def isFraction (s : List Char) : Bool :=
  ((plainDigits? s).filter (·.all Char.isDigit)).isSome

/-- Whether the text is an exponent. -/
def isExponent (s : List Char) : Bool :=
  isFraction (splitSign s).2

/-- A number with a point or an exponent, or one of the two special numbers. -/
def float? (s : List Char) : Option Json :=
  let body := (splitSign s).2
  let small := body.map fun c => if c = 'E' then 'e' else c
  let (mantissa, exponent) := match splitFirst 'e' small with
    | some (mantissa, exponent) => (mantissa, some exponent)
    | none => (body, none)
  let (whole, fraction) := match splitFirst '.' mantissa with
    | some (whole, fraction) => (whole, some fraction)
    | none => (mantissa, none)
  if body = "inf".toList ∨ body = "nan".toList ∨
      ((fraction.isSome ∨ exponent.isSome) ∧ (decimal? whole).isSome ∧ fraction.all isFraction ∧
        exponent.all isExponent) then
    some (.real (String.ofList s))
  else none

/-- The value of exactly so many digits, if it lies between two bounds. -/
def field? (length low high : Nat) (s : List Char) : Option Nat :=
  if s.length = length ∧ s.all Char.isDigit then
    (digits? s).filter fun n => low ≤ n && n ≤ high
  else none

/-- The number of days of a month. -/
def daysOf (year month : Nat) : Nat :=
  if month = 2 then
    if year % 4 = 0 ∧ (year % 100 ≠ 0 ∨ year % 400 = 0) then 29 else 28
  else if month = 4 ∨ month = 6 ∨ month = 9 ∨ month = 11 then 30
  else 31

/-- Whether the text is a day. -/
def isDate (s : List Char) : Bool :=
  match splitOn '-' s with
  | [year, month, day] =>
    match field? 4 0 9999 year, field? 2 1 12 month with
    | some year, some month => (field? 2 1 (daysOf year month) day).isSome
    | _, _ => false
  | _ => false

/-- Whether the text is a time of day. -/
def isTime (s : List Char) : Bool :=
  match splitOn ':' s with
  | [hour, minute, second] =>
    let (second, fraction) := match splitFirst '.' second with
      | some (second, fraction) => (second, some fraction)
      | none => (second, none)
    (field? 2 0 23 hour).isSome && (field? 2 0 59 minute).isSome &&
      (field? 2 0 60 second).isSome && fraction.all fun ds => ds ≠ [] && ds.all Char.isDigit
  | _ => false

/-- Whether the text is a difference from universal time. -/
def isOffset (s : List Char) : Bool :=
  match splitOn ':' s with
  | [hour, minute] => (field? 2 0 23 hour).isSome && (field? 2 0 59 minute).isSome
  | _ => false

/-- Whether the text is a time of day with or without a difference from universal time. -/
def isTimeWithOffset (s : List Char) : Bool :=
  let time := s.takeWhile fun c => c.isDigit || c = ':' || c = '.'
  isTime time &&
    match s.drop time.length with
    | [] | ['Z'] | ['z'] => true
    | '+' :: offset | '-' :: offset => isOffset offset
    | _ => false

/-- Whether the text is a day, a time of day, or both with a letter or blank between them. -/
def isMoment (s : List Char) : Bool :=
  isTime s || isDate s ||
    (isDate (s.take 10) &&
      match s.drop 10 with
      | separator :: time =>
        (separator = 'T' || separator = 't' || separator = ' ') && isTimeWithOffset time
      | [] => false)

/-- A plain value. -/
def scalar? (s : List Char) : Option Json :=
  match String.ofList s with
  | "true" => some (.bool true)
  | "false" => some (.bool false)
  | _ => (integer? s).or ((float? s).or (if isMoment s then some .skippable else none))

/-- Whether a character ends a plain value. -/
def endsScalar (c : Char) : Bool :=
  [' ', '\t', '\n', '\r', ',', ']', '\x7d', '#'].contains c

/-- A plain value at the front of a text, and what follows it. A day and a time of day may have a
blank between them. -/
def scalarAt? (s : List Char) : Option (Json × List Char) :=
  let word := s.takeWhile (!endsScalar ·)
  let rest := s.drop word.length
  match rest with
  | ' ' :: next :: _ =>
    if isDate word ∧ next.isDigit then
      let whole := word ++ ' ' :: (rest.drop 1).takeWhile (!endsScalar ·)
      (scalar? whole).map (·, s.drop whole.length)
    else (scalar? word).map (·, rest)
  | _ => (scalar? word).map (·, rest)

end Rollout.Toml
