import Mathlib.Algebra.GroupWithZero.Nat
import Rollout.Text.Numeral

/-!
# Decimal numerals are read back

The digits of a number have its value again, and no zero stands before another digit. A signed
number is written as these digits, or as these digits after a minus sign. The first of some digits
is what remains of their value when the others are divided away (`digits?_cons_eq_some`).
-/

namespace Rollout.Text

/-- One digit is worth less than ten. -/
theorem digit?_lt {c : Char} {d : Nat} (h : digit? c = some d) : d < 10 := by
  unfold digit? at h
  split at h
  · next hc =>
    obtain ⟨-, hle⟩ := Char.isDigit_iff_toNat.1 hc
    obtain rfl := Option.some.inj h
    exact Nat.lt_of_le_of_lt (Nat.sub_le_sub_right hle _) (by decide)
  · contradiction

/-- Digits have the value that they add to what is before them. -/
theorem digitsFrom?_of_isDigit {s : List Char} (h : ∀ c ∈ s, c.isDigit = true) (value : Nat) :
    digitsFrom? value s = some (Nat.ofDigitChars 10 s value) := by
  induction s generalizing value with
  | nil => rfl
  | cons c s ih =>
    obtain ⟨hc, hs⟩ := List.forall_mem_cons.1 h
    rw [digitsFrom?, digit?, if_pos hc, Option.bind_some, ih hs, Nat.ofDigitChars_cons]

/-- Digits have a value above that of as many zeros and below that of one more. -/
theorem exists_of_digitsFrom? {s : List Char} {value n : Nat} (h : digitsFrom? value s = some n) :
    ∃ rest < 10 ^ s.length, n = value * 10 ^ s.length + rest := by
  induction s generalizing value with
  | nil => exact ⟨0, by simp, by simpa [digitsFrom?] using h.symm⟩
  | cons c s ih =>
    obtain ⟨d, hd, hrest⟩ := Option.bind_eq_some_iff.1 h
    obtain ⟨rest, hlt, rfl⟩ := ih hrest
    have hd10 : d < 10 := digit?_lt hd
    -- The first digit counts as many tens as there are digits after it.
    refine ⟨d * 10 ^ s.length + rest, ?_, ?_⟩
    · calc
        d * 10 ^ s.length + rest < (d + 1) * 10 ^ s.length := by rw [Nat.succ_mul]; omega
        _ ≤ 10 * 10 ^ s.length := Nat.mul_le_mul_right _ hd10
        _ = 10 ^ (c :: s).length := by rw [List.length_cons, Nat.pow_succ, Nat.mul_comm]
    · rw [List.length_cons, Nat.pow_succ, Nat.add_mul, Nat.mul_comm 10 value, Nat.mul_assoc,
        Nat.mul_comm 10, Nat.add_assoc]

/-- The first of some digits is what is left of their value without the others. -/
theorem digits?_cons_eq_some {c : Char} {s : List Char} {n : Nat} (h : digits? (c :: s) = some n) :
    digit? c = some (n / 10 ^ s.length) := by
  obtain ⟨d, hd, hrest⟩ := Option.bind_eq_some_iff.1 h
  obtain ⟨rest, hlt, rfl⟩ := exists_of_digitsFrom? hrest
  have hdiv : (d * 10 ^ s.length + rest) / 10 ^ s.length = d := by
    rw [Nat.mul_comm, Nat.mul_add_div (Nat.pow_pos (by decide)), Nat.div_eq_of_lt hlt,
      Nat.add_zero]
  rw [hd, Nat.mul_zero, Nat.zero_add, hdiv]

/-- A number is written with digits alone. -/
theorem isDigit_toDigits (n : Nat) : ∀ c ∈ Nat.toDigits 10 n, c.isDigit = true := fun _ hc =>
  Nat.isDigit_of_mem_toDigits (by decide) (by decide) hc

/-- The digits of a number have its value. -/
theorem digits?_toDigits (n : Nat) : digits? (Nat.toDigits 10 n) = some n := by
  have hvalue : digitsFrom? 0 (Nat.toDigits 10 n) = some n := by
    rw [digitsFrom?_of_isDigit (isDigit_toDigits n), Nat.ofDigitChars_ten_toDigits]
  obtain ⟨c, cs, hcs⟩ := List.exists_cons_of_ne_nil (Nat.toDigits_ne_nil (n := n) (b := 10))
  rw [hcs] at hvalue ⊢
  exact hvalue

/-- Only zero is written with a zero in front. -/
theorem eq_zero_of_head?_toDigits (n : Nat) (h : (Nat.toDigits 10 n).head? = some '0') : n = 0 := by
  induction n using Nat.strongRecOn with
  | ind n ih =>
    by_cases hn : n < 10
    · -- Of the numbers of one digit only zero begins with it.
      have hone : ∀ k < 10, Nat.digitChar k = '0' → k = 0 := by decide
      rw [Nat.toDigits_of_lt_base hn, List.head?_cons] at h
      exact hone n hn (Option.some.inj h)
    · obtain ⟨c, cs, hcs⟩ :=
        List.exists_cons_of_ne_nil (Nat.toDigits_ne_nil (n := n / 10) (b := 10))
      rw [Nat.toDigits_of_base_le (by decide) (by omega), hcs] at h
      -- A longer number begins like its tenth, which is not zero.
      have hzero : n / 10 = 0 := ih (n / 10) (by omega) (by rw [hcs]; exact h)
      omega

/-- A number is written as its digits, after a minus sign if it is negative. -/
theorem toList_toString_int (n : Int) :
    (toString n).toList =
      if 0 ≤ n then Nat.toDigits 10 n.toNat else '-' :: Nat.toDigits 10 (-n).toNat := by
  show n.repr.toList = _
  rw [Int.repr_eq_if]
  split
  · exact Nat.toList_repr
  · rw [String.toList_append, Nat.toList_repr]
    rfl

/-- Something is written of every number. -/
theorem toList_toString_int_ne_nil (n : Int) : (toString n).toList ≠ [] := by
  rw [toList_toString_int]
  split
  · exact Nat.toDigits_ne_nil
  · exact List.cons_ne_nil _ _

/-- A signed number is written with digits and the minus sign. -/
theorem isDigit_or_eq_minus_of_mem {n : Int} {c : Char} (h : c ∈ (toString n).toList) :
    c.isDigit = true ∨ c = '-' := by
  rw [toList_toString_int] at h
  split at h
  · exact .inl (isDigit_toDigits _ c h)
  · obtain rfl | hc := List.mem_cons.1 h
    · exact .inr rfl
    · exact .inl (isDigit_toDigits _ c hc)

end Rollout.Text
