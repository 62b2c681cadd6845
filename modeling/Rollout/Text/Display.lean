import Rollout.Text.Character

/-!
# How text is shown

On a screen a text takes a number of columns: two for a wide character, none for one that belongs to
the character before it, and one for any other.

In the log a text is quoted so that every character of it can be seen: quotes and backslashes have a
backslash before them, and characters that cannot be shown by themselves are written by their code
points.
-/

namespace Rollout.Text

/-! ## Widths on a screen -/

/-- The format characters that take no room. -/
def isInvisible (c : Char) : Bool :=
  let n := c.toNat
  n == 0xAD || n == 0x34F || n == 0x61C || (0x180B ≤ n && n ≤ 0x180F) ||
    (0x200B ≤ n && n ≤ 0x200F) || (0x202A ≤ n && n ≤ 0x202E) || (0x2060 ≤ n && n ≤ 0x206F) ||
    (0xFE00 ≤ n && n ≤ 0xFE0F) || n == 0xFEFF

/-- The columns of a character. -/
def charWidth (c : Char) : Nat :=
  if isCombining c || isInvisible c then 0
  else if isWide c then 2
  else 1

/-- The columns of a text. -/
def width (s : List Char) : Nat :=
  (s.map charWidth).foldr (· + ·) 0

/-! ## Quoted text in the log -/

/-- A number in hexadecimal digits. -/
def hexDigits (n : Nat) : List Char :=
  Nat.toDigits 16 n

/-- A character as it is written between quotes. -/
def quotedChar (c : Char) : List Char :=
  match c with
  | '\x00' => ['\\', '0']
  | '\t' => ['\\', 't']
  | '\n' => ['\\', 'n']
  | '\r' => ['\\', 'r']
  | '"' => ['\\', '"']
  | '\\' => ['\\', '\\']
  | c =>
    if isCombining c || !isPrintable c then
      ['\\', 'u', '\x7b'] ++ hexDigits c.toNat ++ ['\x7d']
    else [c]

/-- A text between quotes. -/
def quoted (s : String) : String :=
  "\"" ++ String.ofList (s.toList.flatMap quotedChar) ++ "\""

/-- A text that may be missing. -/
def quotedOption : Option String → String
  | none => "None"
  | some s => "Some(" ++ quoted s ++ ")"

/-- A list of texts. -/
def quotedList (ss : List String) : String :=
  "[" ++ ", ".intercalate (ss.map quoted) ++ "]"

end Rollout.Text
