import Rollout.Text.Utf8

/-!
# Bytes of a text are read as the text

`Utf8.decode_encode`: the bytes that a text is written as are read as this text. A character is
written as one to four bytes, the first of which says how many there are and in which range the
second must be. So the proof follows the reading of one character byte by byte, with one case for
each number of bytes; that the second byte is in its range is where the least character of each
length and the gap of the surrogates count.
-/

namespace Rollout.Text.Utf8

/-- Reading goes on after a byte with what this byte leaves. -/
theorem decodeFrom_ofNat_cons (p : Pending) {n : Nat} (h : n < 256) (bytes : List UInt8) :
    decodeFrom p (UInt8.ofNat n :: bytes) = (step p n).2 ++ decodeFrom (step p n).1 bytes := by
  have hn : (UInt8.ofNat n).toNat = n := by rw [UInt8.toNat_ofNat', Nat.mod_eq_of_lt h]
  show (step p (UInt8.ofNat n).toNat).2 ++ decodeFrom (step p (UInt8.ofNat n).toNat).1 bytes = _
  rw [hn]

/-- Where no character has begun, a byte must begin one. -/
theorem step_none (b : Nat) : step .none b = start b :=
  rfl

/-- A byte in range that is not the last adds its six bits. -/
theorem step_of_more {needed bits first last b : Nat} (hrange : first ≤ b ∧ b ≤ last) :
    step ⟨needed + 2, bits, first, last⟩ b =
      (⟨needed + 1, 64 * bits + (b - 0x80), 0x80, 0xBF⟩, []) := by
  simp [step, hrange]

/-- The last byte of a character ends it. -/
theorem step_of_last {bits first last b : Nat} (hrange : first ≤ b ∧ b ≤ last) :
    step ⟨1, bits, first, last⟩ b = (.none, [Char.ofNat (64 * bits + (b - 0x80))]) := by
  simp [step, hrange]

/-- The number of a character is below the end of the code space and no surrogate. -/
theorem toNat_range (c : Char) :
    c.val.toNat < 0xD800 ∨ 0xDFFF < c.val.toNat ∧ c.val.toNat < 0x110000 :=
  c.valid

/-! ## The first byte -/

section First

variable {v : Nat}

/-- A character of one byte is this byte. -/
theorem start_of_one (h : v ≤ 0x7F) : start v = (.none, [Char.ofNat v]) := by
  unfold start
  rw [if_pos (by omega)]

/-- The first of two bytes holds the upper bits, and the second may be any. -/
theorem start_of_two (hlow : 0x80 ≤ v) (hhigh : v ≤ 0x7FF) :
    start (v / 64 % 32 + 192) = (⟨1, v / 64, 0x80, 0xBF⟩, []) := by
  have hbits : v / 64 % 32 + 192 - 0xC0 = v / 64 := by omega
  unfold start
  rw [if_neg (by omega), if_pos (by omega), hbits]

/-- The first of three bytes bounds the second below for the least characters and above for the
surrogates. -/
theorem start_of_three (hlow : 0x800 ≤ v) (hhigh : v ≤ 0xFFFF) :
    start (v / 4096 % 16 + 224) = (⟨2, v / 4096, if v / 4096 = 0 then 0xA0 else 0x80,
      if v / 4096 = 13 then 0x9F else 0xBF⟩, []) := by
  have hbits : v / 4096 % 16 + 224 - 0xE0 = v / 4096 := by omega
  have hfirst : v / 4096 % 16 + 224 = 0xE0 ↔ v / 4096 = 0 := by omega
  have hlast : v / 4096 % 16 + 224 = 0xED ↔ v / 4096 = 13 := by omega
  unfold start
  rw [if_neg (by omega), if_neg (by omega), if_pos (by omega), hbits]
  simp only [hfirst, hlast]

/-- The first of four bytes bounds the second below for the least characters and above for the end.
-/
theorem start_of_four (hlow : 0x10000 ≤ v) (hhigh : v < 0x110000) :
    start (v / 262144 % 8 + 240) = (⟨3, v / 262144, if v / 262144 = 0 then 0x90 else 0x80,
      if v / 262144 = 4 then 0x8F else 0xBF⟩, []) := by
  have hbits : v / 262144 % 8 + 240 - 0xF0 = v / 262144 := by omega
  have hfirst : v / 262144 % 8 + 240 = 0xF0 ↔ v / 262144 = 0 := by omega
  have hlast : v / 262144 % 8 + 240 = 0xF4 ↔ v / 262144 = 4 := by omega
  unfold start
  rw [if_neg (by omega), if_neg (by omega), if_neg (by omega), if_pos (by omega), hbits]
  simp only [hfirst, hlast]

end First

/-! ## A character and a text -/

/-- The bytes of a character are read as the character, whatever follows them. -/
theorem decodeFrom_encodeChar (c : Char) (bytes : List UInt8) :
    decodeFrom .none (String.utf8EncodeChar c ++ bytes) = c :: decodeFrom .none bytes := by
  have hvalid := toNat_range c
  have hchar : Char.ofNat c.val.toNat = c := Char.ofNat_toNat c
  unfold String.utf8EncodeChar
  generalize c.val.toNat = v at hvalid hchar
  dsimp only
  split
  · -- One byte.
    rw [List.cons_append, decodeFrom_ofNat_cons _ (by omega), step_none, start_of_one (by omega),
      hchar]
    rfl
  split
  · -- Two bytes, the last of which may be any.
    have hbits : 64 * (v / 64) + (v % 64 + 128 - 0x80) = v := by omega
    simp only [List.cons_append]
    rw [decodeFrom_ofNat_cons _ (by omega), step_none, start_of_two (by omega) (by omega),
      decodeFrom_ofNat_cons _ (by omega), step_of_last (by omega), hbits, hchar]
    rfl
  split
  · -- Three bytes.
    have hbits : 64 * (64 * (v / 4096) + (v / 64 % 64 + 128 - 0x80)) +
        (v % 64 + 128 - 0x80) = v := by omega
    -- The least character of three bytes and the surrogates bound the second byte.
    have hrange : (if v / 4096 = 0 then 0xA0 else 0x80) ≤ v / 64 % 64 + 128 ∧
        v / 64 % 64 + 128 ≤ if v / 4096 = 13 then 0x9F else 0xBF := by
      split <;> split <;> omega
    simp only [List.cons_append]
    rw [decodeFrom_ofNat_cons _ (by omega), step_none, start_of_three (by omega) (by omega),
      decodeFrom_ofNat_cons _ (by omega), step_of_more hrange,
      decodeFrom_ofNat_cons _ (by omega), step_of_last (by omega), hbits, hchar]
    rfl
  · -- Four bytes.
    have hbits : 64 * (64 * (64 * (v / 262144) + (v / 4096 % 64 + 128 - 0x80)) +
        (v / 64 % 64 + 128 - 0x80)) + (v % 64 + 128 - 0x80) = v := by omega
    -- The least character of four bytes and the last character of all bound the second byte.
    have hrange : (if v / 262144 = 0 then 0x90 else 0x80) ≤ v / 4096 % 64 + 128 ∧
        v / 4096 % 64 + 128 ≤ if v / 262144 = 4 then 0x8F else 0xBF := by
      split <;> split <;> omega
    simp only [List.cons_append]
    rw [decodeFrom_ofNat_cons _ (by omega), step_none, start_of_four (by omega) (by omega),
      decodeFrom_ofNat_cons _ (by omega), step_of_more hrange,
      decodeFrom_ofNat_cons _ (by omega), step_of_more (by omega),
      decodeFrom_ofNat_cons _ (by omega), step_of_last (by omega), hbits, hchar]
    rfl

/-- The bytes of a text are read as the text. -/
theorem decode_encode (s : List Char) : decode (encode s) = s := by
  unfold decode encode
  induction s with
  | nil => rfl
  | cons c s ih => rw [List.flatMap_cons, decodeFrom_encodeChar, ih]

end Rollout.Text.Utf8
