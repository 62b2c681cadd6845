import Rollout.Selection

/-!
# Sizes

The estimated size of a selection counts each active component once. A sum that does not fit into
64 bits is as large as fits.

`mebibytes` writes a size with two decimals, and rounds twice on the way: `Number.toSignificant`
keeps as many binary digits as a floating-point number has, and `Number.divToEven` divides and
rounds to the nearest whole number, a half going to the even neighbour.
-/

namespace Rollout

/-! ## Rounding to the nearest -/

namespace Number

/-- The quotient rounded to the nearest whole number, a half to the even one. -/
def divToEven (n d : Nat) : Nat :=
  let q := n / d
  let twice := 2 * (n % d)
  if twice < d then q
  else if d < twice then q + 1
  else if q % 2 = 0 then q else q + 1

/-- The nearest number that has at most `bits` binary digits before its zeros. -/
def toSignificant (bits n : Nat) : Nat :=
  let unit := Nat.pow 2 (n.log2 + 1 - bits)
  divToEven n unit * unit

/-- Division without remainder is exact. -/
theorem divToEven_of_dvd {n d : Nat} (hd : 0 < d) (h : d ∣ n) : divToEven n d = n / d := by
  have : n % d = 0 := Nat.mod_eq_zero_of_dvd h
  simp [divToEven, this, hd]

end Number

/-! ## Sizes of selections -/

/-- The sum, or the largest number if it does not fit. -/
def saturatingAdd (a b : UInt64) : UInt64 :=
  if a.toNat + b.toNat < UInt64.size then a + b else UInt64.ofNat (UInt64.size - 1)

/-- The size of what is chosen for the active components. -/
def totalSize (selection : Selection) (active : List Component) : UInt64 :=
  let chosen := (Component.normalized active).filterMap selection.get?
  chosen.foldl (fun total a => saturatingAdd total a.size) 0

/-- A size in hundredths of a mebibyte: the size with 53 binary digits, rounded once more. -/
def hundredthsOfMebibytes (bytes : UInt64) : Nat :=
  Number.divToEven (100 * Number.toSignificant 53 bytes.toNat) 0x100000

/-- A size in mebibytes, with two decimals. -/
def mebibytes (bytes : UInt64) : String :=
  let hundredths := hundredthsOfMebibytes bytes
  let decimals := hundredths % 100
  toString (hundredths / 100) ++ "." ++ (if decimals < 10 then "0" else "") ++
    toString decimals ++ " MiB"

end Rollout
