import Rollout.Proofs.Text.Utf8
import Rollout.Text.Percent

/-!
# An encoded text stands for the text

`Percent.decode_encode`: whatever characters are encoded, the text is read back, if only the percent
sign itself is one of them. For then a percent sign in the encoded text always begins an encoded
byte, and the reading meets no other. A character that is encoded does not stand in the encoded text
any more (`notMem_encode`), so that it can separate encoded texts.
-/

namespace Rollout.Text.Percent

variable {mustEncode : Char → Bool}

/-! ## Digits and bytes -/

/-- A digit that is written is read. -/
theorem hexDigit?_upperHexDigit {n : Nat} (h : n < 16) : hexDigit? (upperHexDigit n) = some n := by
  have hall : ∀ n : Fin 16, hexDigit? (upperHexDigit n) = some n.val := by decide +kernel
  exact hall ⟨n, h⟩

/-- An encoded byte is read as the byte. -/
theorem decodeBytes_encodeByte (b : UInt8) (rest : List Char) :
    decodeBytes (encodeByte b ++ rest) = b :: decodeBytes rest := by
  have hb : b.toNat < 256 := b.toNat_lt
  have hhigh : b.toNat / 16 < 16 := by omega
  have hlow : b.toNat % 16 < 16 := by omega
  have hbyte : 16 * (b.toNat / 16) + b.toNat % 16 = b.toNat := by omega
  show decodeBytes ('%' :: _ :: _ :: rest) = _
  rw [decodeBytes, hexDigit?_upperHexDigit hhigh, hexDigit?_upperHexDigit hlow]
  dsimp only
  rw [hbyte, UInt8.ofNat_toNat]

/-- Encoded bytes are read as the bytes. -/
theorem decodeBytes_flatMap_encodeByte (bytes : List UInt8) (rest : List Char) :
    decodeBytes (bytes.flatMap encodeByte ++ rest) = bytes ++ decodeBytes rest := by
  induction bytes with
  | nil => rfl
  | cons b bytes ih =>
    rw [List.flatMap_cons, List.append_assoc, decodeBytes_encodeByte, ih, List.cons_append]

/-- A character other than the percent sign is read as its bytes. -/
theorem decodeBytes_cons {c : Char} (h : c ≠ '%') (rest : List Char) :
    decodeBytes (c :: rest) = String.utf8EncodeChar c ++ decodeBytes rest := by
  rw [decodeBytes]
  intro a b rest' hc
  exact absurd hc h

/-! ## Characters and texts -/

/-- A character is read as its bytes, encoded or not. -/
theorem decodeBytes_encodeChar (hpercent : mustEncode '%' = true) (c : Char) (rest : List Char) :
    decodeBytes (encodeChar mustEncode c ++ rest) =
      String.utf8EncodeChar c ++ decodeBytes rest := by
  unfold encodeChar
  split
  · exact decodeBytes_flatMap_encodeByte _ rest
  · next hplain =>
    have hne : c ≠ '%' := fun hc => hplain (hc ▸ hpercent)
    exact decodeBytes_cons hne rest

/-- An encoded text is read as the bytes of the text. -/
theorem decodeBytes_encode (hpercent : mustEncode '%' = true) (s : List Char) :
    decodeBytes (encode mustEncode s) = Utf8.encode s := by
  unfold encode Utf8.encode
  induction s with
  | nil => rfl
  | cons c s ih =>
    rw [List.flatMap_cons, List.flatMap_cons, decodeBytes_encodeChar hpercent, ih]

/-- An encoded text stands for the text. -/
theorem decode_encode (hpercent : mustEncode '%' = true) (s : List Char) :
    decode (encode mustEncode s) = s := by
  unfold decode
  rw [decodeBytes_encode hpercent, Utf8.decode_encode]

/-- An encoded byte consists of a percent sign and digits. -/
theorem hexDigit?_of_mem_encodeByte {b : UInt8} {x : Char} (h : x ∈ encodeByte b) :
    x = '%' ∨ ∃ n, hexDigit? x = some n := by
  have hb : b.toNat < 256 := b.toNat_lt
  rcases List.mem_cons.1 h with rfl | h
  · exact .inl rfl
  rcases List.mem_cons.1 h with rfl | h
  · exact .inr ⟨_, hexDigit?_upperHexDigit (by omega)⟩
  · rw [List.mem_singleton.1 h]
    exact .inr ⟨_, hexDigit?_upperHexDigit (by omega)⟩

/-- What is encoded does not stand in an encoded text, unless it is needed to write it. -/
theorem notMem_encode {x : Char} (hx : mustEncode x = true) (hpercent : x ≠ '%')
    (hdigit : hexDigit? x = none) (s : List Char) : x ∉ encode mustEncode s := by
  intro hmem
  obtain ⟨c, -, hmem⟩ := List.mem_flatMap.1 hmem
  unfold encodeChar at hmem
  split at hmem
  · obtain ⟨b, -, hmem⟩ := List.mem_flatMap.1 hmem
    rcases hexDigit?_of_mem_encodeByte hmem with heq | ⟨n, hn⟩
    · exact hpercent heq
    · rw [hdigit] at hn
      contradiction
  · next hplain => exact hplain (List.mem_singleton.1 hmem ▸ hx)

end Rollout.Text.Percent
