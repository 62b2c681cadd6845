import Rollout.Text.Numeral

/-!
# Quoted texts in TOML

A quoted text is basic, with escapes, or literal, without; and each kind may stand on one line or on
several, between three quotes then. Every function here takes the text after the opening quotes and
gives what stands for itself and what follows the closing quotes.
-/

namespace Rollout.Toml

open Text

/-- Whether a character must not stand in a text or comment. -/
def isControl (c : Char) : Bool :=
  (c.toNat < 0x20 && c ≠ '\t') || c.toNat = 0x7F

/-- What a backslash and one more character stand for. -/
def shortEscape? : Char → Option Char
  | 'b' => some '\x08'
  | 't' => some '\t'
  | 'n' => some '\n'
  | 'f' => some '\x0c'
  | 'r' => some '\r'
  | '"' => some '"'
  | '\\' => some '\\'
  | _ => none

/-- The character of a code point in hexadecimal digits. -/
def codePoint? (digits : List Char) : Option Char := do
  let n ← inBase? 16 digits
  if h : n.isValidChar then some (Char.ofNatAux n h) else none

/-- What an escape stands for, and what follows it. -/
def escape? : List Char → Option (Char × List Char)
  | 'u' :: a :: b :: c :: d :: rest => (codePoint? [a, b, c, d]).map (·, rest)
  | 'U' :: a :: b :: c :: d :: e :: f :: g :: h :: rest =>
    (codePoint? [a, b, c, d, e, f, g, h]).map (·, rest)
  | c :: rest => (shortEscape? c).map (·, rest)
  | [] => none

/-- A line break at the front, and what follows it. -/
def lineBreak? : List Char → Option (List Char)
  | '\n' :: rest | '\r' :: '\n' :: rest => some rest
  | _ => none

/-- The text after blanks and line breaks. -/
def skipFold : List Char → List Char
  | '\r' :: '\n' :: rest => skipFold rest
  | c :: rest => if c = ' ' ∨ c = '\t' ∨ c = '\n' then skipFold rest else c :: rest
  | [] => []

/-- The text after blanks and line breaks, of which there must be one before anything else. -/
def afterFold? (s : List Char) : Option (List Char) :=
  (lineBreak? (s.dropWhile fun c => c = ' ' || c = '\t')).map skipFold

/-- A quoted text of one line; `limit` bounds its length. -/
def line? (quote : Char) (escapes : Bool) : (limit : Nat) → List Char →
    Option (List Char × List Char)
  | 0, _ | _, [] => none
  | limit + 1, c :: rest =>
    if c = quote then some ([], rest)
    else if c = '\\' ∧ escapes = true then do
      let (c, rest) ← escape? rest
      let (s, rest) ← line? quote escapes limit rest
      return (c :: s, rest)
    else if isControl c then none
    else do
      let (s, rest) ← line? quote escapes limit rest
      return (c :: s, rest)

/-- A quoted text of several lines; `limit` bounds its length. Up to two quotes before the closing
ones belong to the text. -/
def lines? (quote : Char) (escapes : Bool) : (limit : Nat) → List Char →
    Option (List Char × List Char)
  | 0, _ | _, [] => none
  | limit + 1, c :: rest =>
    let quotes := ((c :: rest).takeWhile (· = quote)).length
    if 3 ≤ quotes then
      let kept := min (quotes - 3) 2
      some (List.replicate kept quote, (c :: rest).drop (kept + 3))
    else if c = '\\' ∧ escapes = true then
      match afterFold? rest with
      | some rest => lines? quote escapes limit rest
      | none => do
        let (c, rest) ← escape? rest
        let (s, rest) ← lines? quote escapes limit rest
        return (c :: s, rest)
    else
      match lineBreak? (c :: rest) with
      | some rest => do
        let (s, rest) ← lines? quote escapes limit rest
        return ('\n' :: s, rest)
      | none =>
        if isControl c then none
        else do
          let (s, rest) ← lines? quote escapes limit rest
          return (c :: s, rest)

/-- A quoted text of one line, with its opening quote. -/
def quoted? : List Char → Option (List Char × List Char)
  | '"' :: rest => line? '"' true (rest.length + 1) rest
  | '\'' :: rest => line? '\'' false (rest.length + 1) rest
  | _ => none

/-- A quoted text of several lines after its opening quotes; a line break directly after them does
not count. -/
def block? (quote : Char) (s : List Char) : Option (List Char × List Char) :=
  let s := (lineBreak? s).getD s
  lines? quote (quote = '"') (s.length + 1) s

/-- Any quoted text, with its opening quotes. -/
def text? : List Char → Option (List Char × List Char)
  | '"' :: '"' :: '"' :: rest => block? '"' rest
  | '\'' :: '\'' :: '\'' :: rest => block? '\'' rest
  | s => quoted? s

end Rollout.Toml
