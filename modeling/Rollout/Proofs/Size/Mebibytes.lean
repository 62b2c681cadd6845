import Rollout.Proofs.Size.Rounding
import Rollout.Proofs.Text.Numeral
import Rollout.Proofs.Text.Split
import Rollout.Size

/-!
# Sizes as they are shown

A size is shown as a number of hundredths of a mebibyte, written with a dot before its last two
digits. Such a text has one reading (`Shows.unique`), so that facts about the text are facts about
this number.

The number is rounded twice, to 53 binary digits and then to hundredths. Sizes of up to `2 ^ 53`
bytes need no more digits and are rounded once; a larger one is changed before, by no more than
`2 ^ 10` bytes. Neither of the two steps changes the order of sizes.
-/

namespace Rollout

open Number Text

/-- A text shows a number of hundredths of a mebibyte: digits with no zero in front of another one,
a dot, two more digits, and the unit. -/
def Shows (text : String) (hundredths : Nat) : Prop :=
  ∃ whole decimals : List Char, text.toList = whole ++ '.' :: (decimals ++ " MiB".toList) ∧
    (∀ c ∈ whole ++ decimals, c.isDigit = true) ∧
    whole ≠ [] ∧ (whole.head? = some '0' → whole = ['0']) ∧ decimals.length = 2 ∧
    Nat.ofDigitChars 10 (whole ++ decimals) 0 = hundredths

/-- A text shows one number. -/
theorem Shows.unique {text : String} {m n : Nat} (hm : Shows text m) (hn : Shows text n) :
    m = n := by
  obtain ⟨whole, decimals, htext, hdigits, -, -, -, rfl⟩ := hm
  obtain ⟨whole', decimals', htext', hdigits', -, -, -, rfl⟩ := hn
  -- No digit is a dot, and neither has the unit one.
  have hplain : ∀ s : List Char, (∀ c ∈ s, c.isDigit = true) → '.' ∉ s ++ " MiB".toList := by
    intro s hs hmem
    rcases List.mem_append.1 hmem with hmem | hmem
    · exact absurd (hs _ hmem) (by decide)
    · exact absurd hmem (by decide)
  -- So both texts are cut at the only dot, and have the same digits.
  obtain ⟨rfl, hrest⟩ := append_sep_inj (htext.symm.trans htext')
    (hplain _ fun c hc => hdigits c (List.mem_append_right _ hc))
    (hplain _ fun c hc => hdigits' c (List.mem_append_right _ hc))
  rw [List.append_cancel_right hrest]

/-- Less than a hundred is written with two digits, the first of which may be a zero. -/
theorem toList_twoDigits {n : Nat} (h : n < 100) :
    ((if n < 10 then "0" else "") ++ toString n).toList =
      [Nat.digitChar (n / 10), Nat.digitChar (n % 10)] := by
  have hdigits : (toString n).toList = Nat.toDigits 10 n := Nat.toList_repr
  rw [String.toList_append, hdigits]
  split
  · next hlow =>
    rw [Nat.toDigits_of_lt_base hlow, Nat.div_eq_of_lt hlow, Nat.mod_eq_of_lt hlow]
    rfl
  · rw [Nat.toDigits_of_base_le (by decide) (by omega), Nat.toDigits_of_lt_base (by omega)]
    rfl

/-- A size is shown as its hundredths of a mebibyte. -/
theorem shows_mebibytes (bytes : UInt64) :
    Shows (mebibytes bytes) (hundredthsOfMebibytes bytes) := by
  have hvalue : ∀ k < 10, (Nat.digitChar k).toNat - '0'.toNat = k := by decide
  have hwhole : ∀ n : Nat, (toString n).toList = Nat.toDigits 10 n := fun _ => Nat.toList_repr
  generalize hh : hundredthsOfMebibytes bytes = h
  refine ⟨Nat.toDigits 10 (h / 100), [Nat.digitChar (h % 100 / 10), Nat.digitChar (h % 100 % 10)],
    ?_, ?_, Nat.toDigits_ne_nil, ?_, rfl, ?_⟩
  · -- The text is the whole mebibytes, a dot and the two digits of what is left.
    have hdecimals := toList_twoDigits (Nat.mod_lt h (by decide : 0 < 100))
    rw [String.toList_append] at hdecimals
    simp only [mebibytes, hh, String.toList_append, hwhole (h / 100), List.append_assoc,
      ← hdecimals]
    rfl
  · -- Only digits are written.
    refine List.forall_mem_append.2 ⟨isDigit_toDigits _, ?_⟩
    simp only [List.forall_mem_cons, Nat.isDigit_digitChar, decide_eq_true_eq]
    exact ⟨by omega, by omega, List.forall_mem_nil _⟩
  · -- The whole part begins with a zero only if it is one.
    intro hzero
    rw [eq_zero_of_head?_toDigits _ hzero]
    rfl
  · -- Read as one numeral, the digits are the hundredths again.
    rw [Nat.ofDigitChars_append, Nat.ofDigitChars_ten_toDigits, Nat.ofDigitChars_cons,
      Nat.ofDigitChars_cons, hvalue _ (by omega), hvalue _ (by omega)]
    show 10 * (10 * (h / 100) + h % 100 / 10) + h % 100 % 10 = h
    omega

/-- A larger size is not shown as a smaller number. -/
theorem hundredthsOfMebibytes_mono {bytes bytes' : UInt64} (h : bytes ≤ bytes') :
    hundredthsOfMebibytes bytes ≤ hundredthsOfMebibytes bytes' := by
  have hsize : toSignificant 53 bytes.toNat ≤ toSignificant 53 bytes'.toNat :=
    toSignificant_mono (by decide) (UInt64.le_iff_toNat_le.1 h)
  exact divToEven_mono (by decide) (Nat.mul_le_mul_left 100 hsize)

/-- The hundredths are the nearest to the size that has been rounded to binary digits. -/
theorem nearestToEven_hundredthsOfMebibytes (bytes : UInt64) :
    NearestToEven (100 * toSignificant 53 bytes.toNat / 2 ^ 20) (hundredthsOfMebibytes bytes) := by
  have hnear := nearestToEven_divToEven (100 * toSignificant 53 bytes.toNat)
    (by decide : 0 < 0x100000)
  have hcast : ((100 * toSignificant 53 bytes.toNat : Nat) : ℚ) / (0x100000 : Nat) =
      100 * toSignificant 53 bytes.toNat / 2 ^ 20 := by
    push_cast
    norm_num
  rwa [hcast] at hnear

/-- Both roundings together change a size by no more than `1 / 200 + 1 / 1024` mebibytes. -/
theorem abs_hundredths_sub_le (bytes : UInt64) :
    |(hundredthsOfMebibytes bytes : ℚ) / 100 - bytes.toNat / 2 ^ 20| ≤ 1 / 200 + 1 / 1024 := by
  have hspacing : (spacing 53 bytes.toNat : ℚ) ≤ 2 ^ 11 := by
    -- A size of 64 bits loses at most 11 of them.
    have hlog : bytes.toNat.log2 + 1 - 53 ≤ 11 := by
      by_cases hzero : bytes.toNat = 0
      · rw [hzero]
        decide
      · have hlt : bytes.toNat.log2 < 64 := (Nat.log2_lt hzero).2 bytes.toNat_lt
        omega
    exact_mod_cast Nat.pow_le_pow_right (by decide : 0 < 2) hlog
  have hfirst := abs_le.1 (abs_sub_toSignificant_le 53 bytes.toNat)
  have hsecond := abs_le.1 (nearestToEven_hundredthsOfMebibytes bytes).near
  rw [abs_le]
  constructor <;> linarith

/-- A size is shown with two decimals, as a number of hundredths of a mebibyte that does not become
smaller for a larger size. Up to `2 ^ 53` bytes it is the number nearest to the size, the even one
of two; above, what is shown differs from the size by no more than `1 / 200 + 1 / 1024` mebibytes.
In any case it is the number nearest to the size that is first rounded to the nearest number of 53
binary digits. -/
theorem mebibytes_exact :
    (∀ bytes hundredths, Shows (mebibytes bytes) hundredths ↔
      hundredths = hundredthsOfMebibytes bytes) ∧
    (∀ bytes bytes', bytes ≤ bytes' →
      hundredthsOfMebibytes bytes ≤ hundredthsOfMebibytes bytes') ∧
    (∀ bytes : UInt64, bytes.toNat ≤ 2 ^ 53 →
      NearestToEven (100 * bytes.toNat / 2 ^ 20) (hundredthsOfMebibytes bytes)) ∧
    (∀ bytes : UInt64,
      |(hundredthsOfMebibytes bytes : ℚ) / 100 - bytes.toNat / 2 ^ 20| ≤ 1 / 200 + 1 / 1024) ∧
    ∀ bytes : UInt64, ∃ x, RoundsTo 53 bytes.toNat x ∧
      NearestToEven (100 * x / 2 ^ 20) (hundredthsOfMebibytes bytes) := by
  refine ⟨fun bytes hundredths => ⟨fun h => h.unique (shows_mebibytes bytes), ?_⟩,
    fun _ _ h => hundredthsOfMebibytes_mono h, fun bytes h => ?_, abs_hundredths_sub_le,
    fun bytes => ⟨_, roundsTo_toSignificant (by decide) bytes.toNat,
      nearestToEven_hundredthsOfMebibytes bytes⟩⟩
  · rintro rfl
    exact shows_mebibytes bytes
  · -- The first rounding leaves a size of up to 53 bits as it is.
    have hnear := nearestToEven_hundredthsOfMebibytes bytes
    rwa [toSignificant_of_le (by decide) h] at hnear

/-- Twelve hundredths and a half are shown as twelve, and the largest size, which has too many
digits, as `2 ^ 64` bytes would be. -/
theorem mebibytes_exact_half :
    mebibytes 0x20000 = "0.12 MiB" ∧ NearestToEven (100 * (0x20000 : UInt64).toNat / 2 ^ 20) 12 ∧
      mebibytes 0xFFFFFFFFFFFFFFFF = "17592186044416.00 MiB" ∧
      hundredthsOfMebibytes 0x20000 ≤ hundredthsOfMebibytes 0xFFFFFFFFFFFFFFFF := by
  obtain ⟨-, hmono, hnear, -, -⟩ := mebibytes_exact
  have htwelve : hundredthsOfMebibytes 0x20000 = 12 := by decide +kernel
  refine ⟨by decide +kernel, ?_, by decide +kernel, hmono _ _ (by decide)⟩
  rw [← htwelve]
  exact hnear 0x20000 (by decide)

end Rollout
