import Rollout.Text.Blank
import Rollout.Text.Utf8

/-!
# Encodings of text

The bytes of a body are text in some encoding. A byte order mark at their beginning says in which,
and wins over the name that an answer gives for it; without either it is UTF-8. Bytes that are no
text are read as replacement characters.
-/

namespace Rollout.Text

/-- An encoding of text as bytes. -/
inductive Encoding where
  | utf8
  /-- Two bytes for each unit, the one with the higher value first. -/
  | utf16Big
  /-- Two bytes for each unit, the one with the higher value last. -/
  | utf16Little
  /-- One byte for each character. -/
  | windows1252
  deriving DecidableEq, Repr

namespace Utf16

/-- The units of bytes, and whether a byte is left over. -/
def units (unit : UInt8 → UInt8 → Nat) : List UInt8 → List Nat × Bool
  | [] => ([], false)
  | [_] => ([], true)
  | a :: b :: bytes =>
    let (rest, odd) := units unit bytes
    (unit a b :: rest, odd)

/-- Whether a unit begins a pair. -/
def isHigh (u : Nat) : Bool :=
  0xD800 ≤ u && u ≤ 0xDBFF

/-- Whether a unit ends a pair. -/
def isLow (u : Nat) : Bool :=
  0xDC00 ≤ u && u ≤ 0xDFFF

/-- The characters of units. A half of a pair that stands alone is replaced, and so is a byte that
is left over; at the end both together are replaced by one character. -/
def characters (odd : Bool) : List Nat → List Char
  | [] => if odd then [Utf8.replacement] else []
  | [u] =>
    if isHigh u then [Utf8.replacement]
    else (if isLow u then Utf8.replacement else Char.ofNat u) :: characters odd []
  | u :: v :: rest =>
    if isHigh u then
      if isLow v then Char.ofNat (0x10000 + 0x400 * (u - 0xD800) + (v - 0xDC00)) ::
        characters odd rest
      else Utf8.replacement :: characters odd (v :: rest)
    else (if isLow u then Utf8.replacement else Char.ofNat u) :: characters odd (v :: rest)

/-- The text of bytes. -/
def decode (unit : UInt8 → UInt8 → Nat) (bytes : List UInt8) : List Char :=
  let (units, odd) := units unit bytes
  characters odd units

end Utf16

namespace Windows1252

/-- The characters of the bytes from 128 to 159. -/
def upper : List Nat :=
  [0x20AC, 0x81, 0x201A, 0x192, 0x201E, 0x2026, 0x2020, 0x2021, 0x2C6, 0x2030, 0x160, 0x2039, 0x152,
   0x8D, 0x17D, 0x8F, 0x90, 0x2018, 0x2019, 0x201C, 0x201D, 0x2022, 0x2013, 0x2014, 0x2DC, 0x2122,
   0x161, 0x203A, 0x153, 0x9D, 0x17E, 0x178]

/-- The character of a byte. -/
def character (b : UInt8) : Char :=
  Char.ofNat (if 0x80 ≤ b ∧ b < 0xA0 then upper.getD (b.toNat - 0x80) 0 else b.toNat)

end Windows1252

namespace Encoding

/-- The text of bytes in an encoding. -/
def decode : Encoding → List UInt8 → List Char
  | utf8, bytes => Utf8.decode bytes
  | utf16Big, bytes => Utf16.decode (fun a b => 256 * a.toNat + b.toNat) bytes
  | utf16Little, bytes => Utf16.decode (fun a b => 256 * b.toNat + a.toNat) bytes
  | windows1252, bytes => bytes.map Windows1252.character

/-- The text of a body for which an encoding is named. A byte order mark is no part of the text, and
tells the encoding in place of the name. -/
def decodeBody (named : Encoding) (bytes : List UInt8) : String :=
  String.ofList <| match bytes with
    | 0xEF :: 0xBB :: 0xBF :: bytes => utf8.decode bytes
    | 0xFE :: 0xFF :: bytes => utf16Big.decode bytes
    | 0xFF :: 0xFE :: bytes => utf16Little.decode bytes
    | bytes => named.decode bytes

/-- The names of encodings, in small letters. -/
def labels : List (String × Encoding) :=
  [("utf-8", utf8), ("utf8", utf8), ("utf-16be", utf16Big), ("utf-16", utf16Little),
   ("utf-16le", utf16Little), ("iso-8859-1", windows1252), ("latin1", windows1252),
   ("us-ascii", windows1252), ("ascii", windows1252), ("windows-1252", windows1252)]

/-- The encoding of a name. There are standard names beyond these, for older encodings; what is
named by one of them is read as UTF-8. -/
def ofLabel (label : List Char) : Encoding :=
  (labels.lookup (String.ofList ((trim label).map Char.toLower))).getD utf8

end Encoding

/-- A byte order mark wins over the name: this body is a pair of braces. -/
example : Encoding.utf8.decodeBody [0xFF, 0xFE, 0x7B, 0, 0x7D, 0] = "\x7b\x7d" := by decide +kernel

end Rollout.Text
