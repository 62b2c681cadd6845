/-!
# UTF-8

`Utf8.encode` gives the bytes of a text. `Utf8.decode` reads any bytes: each longest run of bytes
that begins a character and does not end it is read as one replacement character, as is each byte
that begins none. The reading is a fold over the bytes.
-/

namespace Rollout.Text.Utf8

/-- The bytes of a text. -/
def encode (s : List Char) : List UInt8 :=
  s.flatMap String.utf8EncodeChar

/-- What stands for bytes that are no character. -/
def replacement : Char :=
  '\uFFFD'

/-- A character that has begun: how many bytes it still needs, its bits so far, and the range of the
next byte. -/
structure Pending where
  needed : Nat
  bits : Nat
  first : Nat
  last : Nat
  deriving DecidableEq, Repr

/-- The state in which no character has begun. -/
def Pending.none : Pending :=
  ⟨0, 0, 0x80, 0xBF⟩

/-- Takes a byte that must begin a character. -/
def start (b : Nat) : Pending × List Char :=
  if b < 0x80 then (.none, [Char.ofNat b])
  else if 0xC2 ≤ b ∧ b ≤ 0xDF then (⟨1, b - 0xC0, 0x80, 0xBF⟩, [])
  else if 0xE0 ≤ b ∧ b ≤ 0xEF then
    (⟨2, b - 0xE0, if b = 0xE0 then 0xA0 else 0x80, if b = 0xED then 0x9F else 0xBF⟩, [])
  else if 0xF0 ≤ b ∧ b ≤ 0xF4 then
    (⟨3, b - 0xF0, if b = 0xF0 then 0x90 else 0x80, if b = 0xF4 then 0x8F else 0xBF⟩, [])
  else (.none, [replacement])

/-- Takes one byte and gives the characters that end with it. -/
def step (p : Pending) (b : Nat) : Pending × List Char :=
  if p.needed = 0 then start b
  else if p.first ≤ b ∧ b ≤ p.last then
    let bits := 64 * p.bits + (b - 0x80)
    if p.needed = 1 then (.none, [Char.ofNat bits])
    else (⟨p.needed - 1, bits, 0x80, 0xBF⟩, [])
  else
    let (p, cs) := start b
    (p, replacement :: cs)

/-- The characters of bytes, after a character that has begun. -/
def decodeFrom (p : Pending) : List UInt8 → List Char
  | [] => if p.needed = 0 then [] else [replacement]
  | b :: bs =>
    let (p, cs) := step p b.toNat
    cs ++ decodeFrom p bs

/-- The text of bytes. -/
def decode (bytes : List UInt8) : List Char :=
  decodeFrom .none bytes

end Rollout.Text.Utf8
