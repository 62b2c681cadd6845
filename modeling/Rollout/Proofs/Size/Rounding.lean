import Mathlib.Algebra.Order.Field.Rat
import Mathlib.Algebra.Ring.Parity
import Mathlib.Data.Nat.Log
import Mathlib.Tactic.FieldSimp
import Mathlib.Tactic.Linarith
import Mathlib.Tactic.NormNum
import Mathlib.Tactic.Positivity
import Mathlib.Tactic.Ring
import Rollout.Size

/-!
# What rounding gives

`NearestToEven` says which whole number a quotient is rounded to: one that is no more than a half
away, and the even one if two are. Rounding keeps the order of the quotients because the even one is
the same for both sides of a tie (`NearestToEven.le_of_le`).

A number is rounded to binary digits by rounding it to a multiple of a power of two, its `spacing`.
Spacings change at powers of two, and these are multiples of the spacings on both sides of them; so
the order is kept here too (`toSignificant_mono`). `RoundsTo` says the same without any spacing: of
all numbers with so many digits the nearest, and of two of them the one that needs a digit less.
-/

namespace Rollout.Number

/-! ## Quotients -/

/-- `q` is a whole number nearest to `x`, and the even one if there are two. -/
structure NearestToEven (x : ℚ) (q : Nat) : Prop where
  near : |x - q| ≤ 1 / 2
  even_of_tie : |x - q| = 1 / 2 → Even q

/-- Of two numbers the larger one is not rounded to less. -/
theorem NearestToEven.le_of_le {x y : ℚ} {p q : Nat} (hx : NearestToEven x p)
    (hy : NearestToEven y q) (h : x ≤ y) : p ≤ q := by
  by_contra hlt
  have hnext : q + 1 ≤ p := Nat.lt_of_not_le hlt
  have hnext' : (q : ℚ) + 1 ≤ p := by exact_mod_cast hnext
  have hxnear := abs_le.1 hx.near
  have hynear := abs_le.1 hy.near
  -- There is room only for one number, halfway between the two that it is rounded to.
  have hxtie : x - p = -(1 / 2) := by linarith
  have hytie : y - q = 1 / 2 := by linarith
  have hp : Even p := hx.even_of_tie (by rw [hxtie, abs_neg, abs_of_pos (by norm_num)])
  have hq : Even q := hy.even_of_tie (by rw [hytie, abs_of_pos (by norm_num)])
  have heq : p = q + 1 := by
    have : (p : ℚ) = q + 1 := by linarith
    exact_mod_cast this
  rw [heq] at hp
  exact (Nat.even_add_one.1 hp) hq

/-- No other whole number is nearer, and if one is as near, the number is rounded to an even one. -/
theorem NearestToEven.nearest {x : ℚ} {q : Nat} (h : NearestToEven x q) (j : Nat) :
    |x - q| ≤ |x - j| ∧ (|x - q| = |x - j| → q = j ∨ Even q) := by
  by_cases hj : q = j
  · exact ⟨hj ▸ le_rfl, fun _ => .inl hj⟩
  · -- Another whole number is at least one away, so it is at least as far from `x`.
    have happart : (1 : ℚ) ≤ |(j : ℚ) - q| := by
      have hne : (j : ℤ) - q ≠ 0 := by omega
      exact_mod_cast Int.one_le_abs hne
    have htriangle : |(j : ℚ) - q| ≤ |x - q| + |x - j| := by
      have hsum := abs_sub_le (j : ℚ) x q
      rw [abs_sub_comm (j : ℚ) x] at hsum
      linarith
    have hnear := h.near
    exact ⟨by linarith, fun heq => .inr (h.even_of_tie (by linarith))⟩

variable {n k d q bits : Nat}

/-- The distance from a multiple is that of the quotient from a whole number, scaled. -/
theorem abs_sub_mul (hd : 0 < d) (n q : Nat) :
    |(n : ℚ) - (q * d : Nat)| = |(n : ℚ) / d - q| * d := by
  have hd' : (0 : ℚ) < d := by exact_mod_cast hd
  calc |(n : ℚ) - (q * d : Nat)| = |((n : ℚ) / d - q) * d| := by
        rw [sub_mul, div_mul_cancel₀ _ hd'.ne', Nat.cast_mul]
    _ = |(n : ℚ) / d - q| * d := by rw [abs_mul, abs_of_pos hd']

/-- To what a quotient is rounded, in whole numbers. -/
theorem nearestToEven_div_iff (hd : 0 < d) : NearestToEven (n / d) q ↔
    2 * n ≤ 2 * (q * d) + d ∧ 2 * (q * d) ≤ 2 * n + d ∧
      (2 * n = 2 * (q * d) + d ∨ 2 * (q * d) = 2 * n + d → Even q) := by
  have hd' : (0 : ℚ) < d := by exact_mod_cast hd
  -- Scaled by the divisor, both conditions are about whole numbers.
  have hnear : |(n : ℚ) / d - q| ≤ 1 / 2 ↔
      2 * n ≤ 2 * (q * d) + d ∧ 2 * (q * d) ≤ 2 * n + d := by
    rw [← mul_le_mul_iff_of_pos_right hd', ← abs_sub_mul hd, abs_le, ← Nat.cast_le (α := ℚ),
      ← Nat.cast_le (α := ℚ)]
    push_cast
    constructor <;> rintro ⟨hlow, hhigh⟩ <;> constructor <;> linarith
  have htie : |(n : ℚ) / d - q| = 1 / 2 ↔
      2 * n = 2 * (q * d) + d ∨ 2 * (q * d) = 2 * n + d := by
    rw [← mul_left_inj' hd'.ne', ← abs_sub_mul hd, abs_eq (by positivity),
      ← Nat.cast_inj (R := ℚ), ← Nat.cast_inj (R := ℚ)]
    push_cast
    refine or_congr ?_ ?_ <;> constructor <;> intro h <;> linarith
  constructor
  · rintro ⟨h, heven⟩
    exact ⟨(hnear.1 h).1, (hnear.1 h).2, fun h => heven (htie.2 h)⟩
  · rintro ⟨hlow, hhigh, heven⟩
    exact ⟨hnear.2 ⟨hlow, hhigh⟩, fun h => heven (htie.1 h)⟩

/-- A quotient is rounded to the nearest whole number, and to the even one of two. -/
theorem nearestToEven_divToEven (n : Nat) (hd : 0 < d) :
    NearestToEven (n / d) (divToEven n d) := by
  -- The remainder decides on which side of the half the quotient is.
  have hdivision : n / d * d + n % d = n := Nat.div_add_mod' n d
  have hlt : n % d < d := Nat.mod_lt n hd
  have hnext : (n / d + 1) * d = n / d * d + d := Nat.succ_mul _ _
  rw [nearestToEven_div_iff hd]
  unfold divToEven
  dsimp only
  split
  · omega
  · split
    · rw [hnext]
      omega
    · -- Only here the quotient is halfway between two whole numbers.
      split
      · next heven => exact ⟨by omega, by omega, fun _ => Nat.even_iff.2 heven⟩
      · next hodd =>
        rw [hnext]
        exact ⟨by omega, by omega, fun _ => Nat.even_add_one.2 (by rwa [Nat.even_iff])⟩

/-- A larger number is not rounded to less. -/
theorem divToEven_mono (hd : 0 < d) (h : n ≤ k) : divToEven n d ≤ divToEven k d := by
  refine (nearestToEven_divToEven n hd).le_of_le (nearestToEven_divToEven k hd) ?_
  have hcast : (n : ℚ) ≤ k := by exact_mod_cast h
  exact div_le_div_of_nonneg_right hcast (Nat.cast_nonneg d)

/-- Rounding to multiples does not pass a multiple from below. -/
theorem divToEven_mul_le (hd : 0 < d) (hdvd : d ∣ k) (h : n ≤ k) : divToEven n d * d ≤ k := by
  calc divToEven n d * d ≤ divToEven k d * d := Nat.mul_le_mul_right d (divToEven_mono hd h)
    _ = k := by rw [divToEven_of_dvd hd hdvd, Nat.div_mul_cancel hdvd]

/-- Rounding to multiples does not pass a multiple from above. -/
theorem le_divToEven_mul (hd : 0 < d) (hdvd : d ∣ k) (h : k ≤ n) : k ≤ divToEven n d * d := by
  calc k = divToEven k d * d := by rw [divToEven_of_dvd hd hdvd, Nat.div_mul_cancel hdvd]
    _ ≤ divToEven n d * d := Nat.mul_le_mul_right d (divToEven_mono hd h)

/-! ## Binary digits -/

/-- The power of two of which a number is rounded to a multiple. -/
def spacing (bits n : Nat) : Nat :=
  2 ^ (n.log2 + 1 - bits)

/-- A spacing is a power of two. -/
theorem spacing_pos (bits n : Nat) : 0 < spacing bits n :=
  Nat.two_pow_pos _

/-- Rounding to binary digits is rounding to multiples of the spacing. -/
theorem toSignificant_eq (bits n : Nat) :
    toSignificant bits n = divToEven n (spacing bits n) * spacing bits n :=
  rfl

/-- The power of two above a number is a multiple of its spacing. -/
theorem spacing_dvd_above (bits n : Nat) : spacing bits n ∣ 2 ^ (n.log2 + 1) :=
  Nat.pow_dvd_pow 2 (Nat.sub_le _ _)

/-- So is the power of two below it. -/
theorem spacing_dvd_below (hbits : 0 < bits) (n : Nat) : spacing bits n ∣ 2 ^ n.log2 :=
  Nat.pow_dvd_pow 2 (by omega)

/-- Rounding does not pass the power of two above a number. -/
theorem toSignificant_le (bits n : Nat) : toSignificant bits n ≤ 2 ^ (n.log2 + 1) :=
  divToEven_mul_le (spacing_pos bits n) (spacing_dvd_above bits n) Nat.lt_log2_self.le

/-- Rounding does not pass the power of two below a number. -/
theorem le_toSignificant (hbits : 0 < bits) (hn : n ≠ 0) : 2 ^ n.log2 ≤ toSignificant bits n :=
  le_divToEven_mul (spacing_pos bits n) (spacing_dvd_below hbits n) (Nat.log2_self_le hn)

/-- A number with no more digits is kept, and so is the first one with more. -/
theorem toSignificant_of_le (hbits : 0 < bits) (h : n ≤ 2 ^ bits) : toSignificant bits n = n := by
  have hdvd : spacing bits n ∣ n := by
    -- With no more digits the spacing is one, and the first number with more is a power of two.
    rcases Nat.lt_or_eq_of_le h with hlt | rfl
    · by_cases hn : n = 0
      · exact hn ▸ dvd_zero _
      · have hone : n.log2 + 1 - bits = 0 := Nat.sub_eq_zero_of_le ((Nat.log2_lt hn).2 hlt)
        rw [spacing, hone, Nat.pow_zero]
        exact one_dvd n
    · rw [spacing, Nat.log2_two_pow]
      exact Nat.pow_dvd_pow 2 (by omega)
  rw [toSignificant_eq, divToEven_of_dvd (spacing_pos bits n) hdvd, Nat.div_mul_cancel hdvd]

/-- Rounding to binary digits keeps the order. -/
theorem toSignificant_mono (hbits : 0 < bits) (h : n ≤ k) :
    toSignificant bits n ≤ toSignificant bits k := by
  by_cases hlog : n.log2 = k.log2
  · have hspacing : spacing bits n = spacing bits k := by rw [spacing, spacing, hlog]
    rw [toSignificant_eq, toSignificant_eq, hspacing]
    exact Nat.mul_le_mul_right _ (divToEven_mono (spacing_pos bits k) h)
  · -- Between the two there is a power of two, which neither of them passes.
    have hlt : n.log2 < k.log2 := by
      refine lt_of_le_of_ne ?_ hlog
      simpa only [Nat.log2_eq_log_two] using Nat.log_mono_right h
    have hk : k ≠ 0 := by
      rintro rfl
      exact Nat.not_lt_zero _ hlt
    calc toSignificant bits n ≤ 2 ^ (n.log2 + 1) := toSignificant_le bits n
      _ ≤ 2 ^ k.log2 := Nat.pow_le_pow_right (by norm_num) hlt
      _ ≤ toSignificant bits k := le_toSignificant hbits hk

/-- Rounding to binary digits changes a number by no more than half of its spacing. -/
theorem abs_sub_toSignificant_le (bits n : Nat) :
    |(n : ℚ) - toSignificant bits n| ≤ spacing bits n / 2 := by
  have hpos := spacing_pos bits n
  have hnear := (nearestToEven_divToEven n hpos).near
  rw [toSignificant_eq, abs_sub_mul hpos]
  calc |(n : ℚ) / spacing bits n - divToEven n (spacing bits n)| * spacing bits n
      ≤ 1 / 2 * spacing bits n := mul_le_mul_of_nonneg_right hnear (Nat.cast_nonneg _)
    _ = spacing bits n / 2 := by ring

/-! ## The nearest number with so many digits -/

/-- A number that is written with so many binary digits and zeros after them. -/
def HasDigits (bits x : Nat) : Prop :=
  ∃ m e, m < 2 ^ bits ∧ x = m * 2 ^ e

/-- `x` is the number with so many digits that is nearest to `n`, and of two the one that is written
with a digit less. -/
structure RoundsTo (bits n x : Nat) : Prop where
  hasDigits : HasDigits bits x
  near : ∀ y, HasDigits bits y → |(n : ℚ) - x| ≤ |(n : ℚ) - y|
  fewer_of_tie : ∀ y, HasDigits bits y → |(n : ℚ) - x| = |(n : ℚ) - y| →
    x = y ∨ HasDigits (bits - 1) x

/-- So many digits are enough also for the first number that has one more. -/
theorem hasDigits_of_le {m e : Nat} (hbits : 0 < bits) (h : m ≤ 2 ^ bits) :
    HasDigits bits (m * 2 ^ e) := by
  rcases Nat.lt_or_eq_of_le h with hlt | rfl
  · exact ⟨m, e, hlt, rfl⟩
  · exact ⟨1, bits + e, Nat.one_lt_two_pow hbits.ne', by rw [Nat.one_mul, Nat.pow_add]⟩

/-- A number with so many digits is a multiple of the spacing, unless it is smaller than the power
of two below. -/
theorem HasDigits.dvd_or_lt {y : Nat} (h : HasDigits bits y) (hbits : 0 < bits) (n : Nat) :
    spacing bits n ∣ y ∨ n ≠ 0 ∧ y < 2 ^ n.log2 := by
  obtain ⟨m, e, hm, rfl⟩ := h
  by_cases he : n.log2 + 1 - bits ≤ e
  · exact .inl ((Nat.pow_dvd_pow 2 he).mul_left m)
  · right
    refine ⟨fun hn => ?_, ?_⟩
    · rw [hn, Nat.log2_zero] at he
      omega
    · calc m * 2 ^ e < 2 ^ bits * 2 ^ e := Nat.mul_lt_mul_of_pos_right hm (Nat.two_pow_pos e)
        _ = 2 ^ (bits + e) := (Nat.pow_add 2 bits e).symm
        _ ≤ 2 ^ n.log2 := Nat.pow_le_pow_right (by norm_num) (by omega)

/-- Of the multiples none is nearer, and if one is as near, the number is rounded to an even one. -/
theorem abs_sub_divToEven_mul_le (n : Nat) (hd : 0 < d) (j : Nat) :
    |(n : ℚ) - (divToEven n d * d : Nat)| ≤ |(n : ℚ) - (j * d : Nat)| ∧
      (|(n : ℚ) - (divToEven n d * d : Nat)| = |(n : ℚ) - (j * d : Nat)| →
        divToEven n d = j ∨ Even (divToEven n d)) := by
  have hd' : (0 : ℚ) < d := by exact_mod_cast hd
  have h := (nearestToEven_divToEven n hd).nearest j
  rw [abs_sub_mul hd, abs_sub_mul hd]
  exact ⟨mul_le_mul_of_nonneg_right h.1 hd'.le, fun heq => h.2 (mul_right_cancel₀ hd'.ne' heq)⟩

/-- The multiple of the spacing has no more digits than are kept. -/
theorem divToEven_spacing_le (bits n : Nat) : divToEven n (spacing bits n) ≤ 2 ^ bits := by
  refine Nat.le_of_mul_le_mul_right ?_ (spacing_pos bits n)
  calc divToEven n (spacing bits n) * spacing bits n = toSignificant bits n := rfl
    _ ≤ 2 ^ (n.log2 + 1) := toSignificant_le bits n
    _ ≤ 2 ^ (bits + (n.log2 + 1 - bits)) := Nat.pow_le_pow_right (by norm_num) (by omega)
    _ = 2 ^ bits * spacing bits n := Nat.pow_add 2 bits _

/-- What is smaller than the power of two below a number is farther away from it than what it is
rounded to. -/
theorem abs_sub_toSignificant_lt (hbits : 0 < bits) (hn : n ≠ 0) {y : Nat} (hy : y < 2 ^ n.log2) :
    |(n : ℚ) - toSignificant bits n| < |(n : ℚ) - y| := by
  obtain ⟨j, hj⟩ := spacing_dvd_below hbits n
  have hnear := (abs_sub_divToEven_mul_le n (spacing_pos bits n) j).1
  rw [← toSignificant_eq, Nat.mul_comm j, ← hj] at hnear
  have hpower : ((2 ^ n.log2 : Nat) : ℚ) ≤ n := by exact_mod_cast Nat.log2_self_le hn
  have hy' : (y : ℚ) < (2 ^ n.log2 : Nat) := by exact_mod_cast hy
  calc |(n : ℚ) - toSignificant bits n| ≤ |(n : ℚ) - (2 ^ n.log2 : Nat)| := hnear
    _ = n - (2 ^ n.log2 : Nat) := abs_of_nonneg (sub_nonneg.2 hpower)
    _ < n - y := sub_lt_sub_left hy' _
    _ ≤ |(n : ℚ) - y| := le_abs_self _

/-- Rounding to binary digits gives the nearest number with so many. -/
theorem roundsTo_toSignificant (hbits : 1 < bits) (n : Nat) :
    RoundsTo bits n (toSignificant bits n) := by
  have hpos : 0 < bits := Nat.zero_lt_of_lt hbits
  have hle := divToEven_spacing_le bits n
  refine ⟨hasDigits_of_le hpos hle, fun y hy => ?_, fun y hy htie => ?_⟩
  · -- A number with so many digits is a multiple of the spacing, of which none is nearer, or
    -- smaller than the power of two below, and so farther away.
    rcases hy.dvd_or_lt hpos n with ⟨j, rfl⟩ | ⟨hn, hlt⟩
    · rw [Nat.mul_comm]
      exact (abs_sub_divToEven_mul_le n (spacing_pos bits n) j).1
    · exact (abs_sub_toSignificant_lt hpos hn hlt).le
  · -- Only a multiple of the spacing can be as near.
    rcases hy.dvd_or_lt hpos n with ⟨j, rfl⟩ | ⟨hn, hlt⟩
    · rw [Nat.mul_comm] at htie ⊢
      rcases (abs_sub_divToEven_mul_le n (spacing_pos bits n) j).2 htie with heq | ⟨half, hhalf⟩
      · exact .inl (by rw [toSignificant_eq, heq])
      · -- An even multiple of the spacing is a multiple of twice the spacing.
        right
        have hhalf_le : half ≤ 2 ^ (bits - 1) := by
          have hdouble : 2 ^ bits = 2 * 2 ^ (bits - 1) := by
            rw [← Nat.pow_succ', Nat.succ_eq_add_one, Nat.sub_add_cancel hpos]
          omega
        have hsplit : toSignificant bits n = half * 2 ^ (n.log2 + 1 - bits + 1) := by
          rw [toSignificant_eq, hhalf, spacing]
          ring
        rw [hsplit]
        exact hasDigits_of_le (by omega) hhalf_le
    · exact absurd htie (abs_sub_toSignificant_lt hpos hn hlt).ne

end Rollout.Number
