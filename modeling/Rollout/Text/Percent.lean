import Rollout.Text.Numeral
import Rollout.Text.Utf8

/-!
# Percent-encoding

A character that has a meaning of its own, or none that can be sent, is written by its bytes, each
as a percent sign and two hexadecimal digits.
-/

namespace Rollout.Text.Percent

/-- A hexadecimal digit in upper case. -/
def upperHexDigit (n : Nat) : Char :=
  (Nat.digitChar n).toUpper

/-- A byte in encoded form. -/
def encodeByte (b : UInt8) : List Char :=
  ['%', upperHexDigit (b.toNat / 16), upperHexDigit (b.toNat % 16)]

/-- A character, encoded if it is one of those that must be. -/
def encodeChar (mustEncode : Char → Bool) (c : Char) : List Char :=
  if mustEncode c then (String.utf8EncodeChar c).flatMap encodeByte else [c]

/-- A text, with those characters encoded that must be. -/
def encode (mustEncode : Char → Bool) (s : List Char) : List Char :=
  s.flatMap (encodeChar mustEncode)

/-- The bytes of a text in which encoded bytes may stand. -/
def decodeBytes : List Char → List UInt8
  | [] => []
  | '%' :: a :: b :: rest =>
    match hexDigit? a, hexDigit? b with
    | some m, some n => UInt8.ofNat (16 * m + n) :: decodeBytes rest
    | _, _ => String.utf8EncodeChar '%' ++ decodeBytes (a :: b :: rest)
  | c :: rest => String.utf8EncodeChar c ++ decodeBytes rest

/-- The text that an encoded text stands for. -/
def decode (s : List Char) : List Char :=
  Utf8.decode (decodeBytes s)

/-- The characters that are always encoded: control characters and all beyond ASCII. -/
def isControlOrBeyond (c : Char) : Bool :=
  c.toNat < 0x20 || 0x7E < c.toNat

/-- The characters that are encoded in a path. -/
def inPath (c : Char) : Bool :=
  isControlOrBeyond c || [' ', '"', '#', '<', '>', '?', '`', '\x7b', '\x7d'].contains c

/-- The characters that are encoded in one segment of a path. -/
def inSegment (c : Char) : Bool :=
  inPath c || ['/', '%', '\\'].contains c

/-- The characters that are encoded in a query. -/
def inQuery (c : Char) : Bool :=
  isControlOrBeyond c || [' ', '"', '#', '<', '>', '\''].contains c

/-- The characters that are encoded in a fragment. -/
def inFragment (c : Char) : Bool :=
  isControlOrBeyond c || [' ', '"', '<', '>', '`'].contains c

/-- The characters that are encoded in a user name or password. -/
def inUserInfo (c : Char) : Bool :=
  inPath c || ['/', ':', ';', '=', '@', '[', '\\', ']', '^', '|'].contains c

/-- The characters of a form's value that stand for themselves. -/
def isFormSafe (c : Char) : Bool :=
  c.isAlphanum || ['*', '-', '.', '_'].contains c

/-- A text as a form sends it: a blank as a plus sign. -/
def encodeForm (s : List Char) : List Char :=
  s.flatMap fun c => if c = ' ' then ['+'] else encodeChar (!isFormSafe ·) c

end Rollout.Text.Percent
