/-!
# Unsigned decimal numerals

`unsigned? bound` reads a numeral: an optional plus sign and then ASCII digits only, at least one,
with a value below `bound`. Leading zeros are allowed.
-/

namespace Rollout.Text

/-- The value of one ASCII digit. -/
def digit? (c : Char) : Option Nat :=
  if c.isDigit then some (c.toNat - '0'.toNat) else none

/-- The value of a text of ASCII digits read after digits worth `value`. -/
def digitsFrom? (value : Nat) : List Char → Option Nat
  | [] => some value
  | c :: cs => (digit? c).bind fun d => digitsFrom? (10 * value + d) cs

/-- The value of a text that consists of ASCII digits, at least one. -/
def digits? : List Char → Option Nat
  | [] => none
  | c :: cs => digitsFrom? 0 (c :: cs)

/-- The value of an unsigned numeral below `bound`, with or without a plus sign. -/
def unsigned? (bound : Nat) (s : List Char) : Option Nat :=
  let body := match s with
    | '+' :: cs => cs
    | cs => cs
  (digits? body).filter (· < bound)

/-- A hexadecimal digit of either case. -/
def hexDigit? (c : Char) : Option Nat :=
  if c.isDigit then some (c.toNat - '0'.toNat)
  else if 'a' ≤ c ∧ c ≤ 'f' then some (c.toNat - 'a'.toNat + 10)
  else if 'A' ≤ c ∧ c ≤ 'F' then some (c.toNat - 'A'.toNat + 10)
  else none

/-- The value of a text of digits in a base of at most sixteen, at least one digit. -/
def inBase? (base : Nat) (s : List Char) : Option Nat :=
  if s.isEmpty then none
  else s.foldlM (fun value c => ((hexDigit? c).filter (· < base)).map (base * value + ·)) 0

/-- A numeral that is read has a value below the bound. -/
theorem lt_of_unsigned? {bound n : Nat} {s : List Char} (h : unsigned? bound s = some n) :
    n < bound := by
  simp only [unsigned?, Option.filter_eq_some_iff, decide_eq_true_eq] at h
  exact h.2

end Rollout.Text
