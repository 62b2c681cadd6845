import Rollout.Text.Percent
import Rollout.Text.Split

/-!
# Hosts

The host of an address is a domain name, an address of four numbers, or an address of eight numbers
in brackets. A domain name is brought into lower case, and labels with other letters than those of
ASCII are written in the ASCII form of such labels. Which letters are brought into lower case is
limited to the common alphabets (`Host.fold`); nothing that is proved depends on the limit.
-/

namespace Rollout.Http

open Text

/-- Why a text is no address. -/
inductive UrlError where
  | relative
  | emptyHost
  | invalidPort
  | invalidIpv4
  | invalidIpv6
  | invalidDomain
  | invalidCharacter
  deriving DecidableEq, Repr

/-- The reason in words. -/
def UrlError.message : UrlError → String
  | relative => "relative URL without a base"
  | emptyHost => "empty host"
  | invalidPort => "invalid port number"
  | invalidIpv4 => "invalid IPv4 address"
  | invalidIpv6 => "invalid IPv6 address"
  | invalidDomain => "invalid international domain name"
  | invalidCharacter => "invalid domain character"

namespace Host

/-- The value of a number in an address of four: decimal, octal after a zero, hexadecimal after
`0x`. -/
def number? (s : List Char) : Option Nat :=
  match s with
  | [] => none
  | '0' :: 'x' :: ds | '0' :: 'X' :: ds => if ds = [] then some 0 else inBase? 16 ds
  | '0' :: d :: ds => inBase? 8 (d :: ds)
  | ds => inBase? 10 ds

/-- The parts of a dotted text, without an empty one at the end. -/
def dottedParts (s : List Char) : List (List Char) :=
  let parts := splitOn '.' s
  if 1 < parts.length ∧ parts.getLast? = some [] then parts.dropLast else parts

/-- Whether the last part is a number, so that the whole must be an address of four numbers. -/
def endsInNumber (s : List Char) : Bool :=
  match (dottedParts s).getLast? with
  | none => false
  | some last => (last ≠ [] && last.all Char.isDigit) || (number? last).isSome

/-- The value of an address of up to four numbers, the last of which fills what is left. -/
def ipv4? (s : List Char) : Option Nat := do
  let parts := dottedParts s
  if 4 < parts.length then none
  let numbers ← parts.mapM number?
  let last ← numbers.getLast?
  let before := numbers.dropLast
  if before.any (255 < ·) ∨ Nat.pow 256 (4 - before.length) ≤ last then none
  return before.foldr (fun n rest => n * 0x1000000 + rest / 256) 0 + last

/-- The four numbers of an address with dots between them. -/
def ipv4Text (n : Nat) : String :=
  ".".intercalate ([n / 0x1000000, n / 0x10000 % 256, n / 256 % 256, n % 256].map toString)

/-- One of the four numbers within an address of eight: decimal without leading zero. -/
def embeddedNumber? (s : List Char) : Option Nat :=
  if s.length ≤ 3 ∧ (s.head? ≠ some '0' ∨ s.length = 1) then
    (inBase? 10 s).filter (· < 256)
  else none

/-- One part of an address of eight: one number, or at the end two made of four. -/
def piece? (isLast : Bool) (s : List Char) : Option (List Nat) :=
  if isLast ∧ s.contains '.' then do
    match ← (splitOn '.' s).mapM embeddedNumber? with
    | [a, b, c, d] => return [256 * a + b, 256 * c + d]
    | _ => none
  else if s.length ≤ 4 then (inBase? 16 s).map ([·])
  else none

/-- The numbers of a text with colons between its parts. -/
def pieces? (isLast : Bool) (s : List Char) : Option (List Nat) :=
  if s = [] then some []
  else
    let parts := splitOn ':' s
    let before := parts.dropLast.mapM (piece? false)
    let last := parts.getLast?.bind (piece? isLast)
    return (← before).flatten ++ (← last)

/-- The text before and after the first double colon. -/
def splitDoubleColon : List Char → Option (List Char × List Char)
  | ':' :: ':' :: cs => some ([], cs)
  | c :: cs => (splitDoubleColon cs).map fun (before, after) => (c :: before, after)
  | [] => none

/-- The eight numbers of an address, a double colon standing for one or more zeros. -/
def ipv6? (s : List Char) : Option (List Nat) :=
  match splitDoubleColon s with
  | none => (pieces? true s).filter (·.length = 8)
  | some (before, after) => do
    let left ← pieces? false before
    let right ← pieces? true after
    if 7 < left.length + right.length then none
    else return left ++ List.replicate (8 - left.length - right.length) 0 ++ right

/-- The length of the run of zeros at the front. -/
def zeros (ns : List Nat) : Nat :=
  (ns.takeWhile (· = 0)).length

/-- The place of the longest run of zeros, the first of several. -/
def longestZeros (ns : List Nat) : Nat × Nat :=
  (List.range ns.length).foldl (fun best i =>
    let run := zeros (ns.drop i)
    if best.2 < run then (i, run) else best) (0, 0)

/-- The eight numbers in hexadecimal, their longest run of several zeros as a double colon. -/
def ipv6Text (ns : List Nat) : String :=
  let hex (ns : List Nat) := ":".intercalate (ns.map fun n => String.ofList (Nat.toDigits 16 n))
  let (start, run) := longestZeros ns
  if run < 2 then hex ns else hex (ns.take start) ++ "::" ++ hex (ns.drop (start + run))

/-- What a letter of a domain name is taken for; a format character is left out.

This is the mapping of international domain names only in part: the capitals of Latin-1, of Greek
and of Cyrillic become small letters, full-width forms become ASCII, and the three other full stops
become dots. Every other letter is taken as it is, also a capital with a macron or a ligature, for
which the whole mapping has other letters. -/
def fold (c : Char) : Option Char :=
  let n := c.toNat
  if n = 0xAD ∨ (0x200B ≤ n ∧ n ≤ 0x200D) ∨ n = 0x2060 ∨ n = 0xFEFF then none
  else if n = 0x3002 ∨ n = 0xFF0E ∨ n = 0xFF61 then some '.'
  else if 0xFF01 ≤ n ∧ n ≤ 0xFF5E then some (Char.ofNat (n - 0xFEE0)).toLower
  else if (0xC0 ≤ n ∧ n ≤ 0xDE ∧ n ≠ 0xD7) ∨ (0x391 ≤ n ∧ n ≤ 0x3A9) ∨
      (0x410 ≤ n ∧ n ≤ 0x42F) then some (Char.ofNat (n + 32))
  else if 0x400 ≤ n ∧ n ≤ 0x40F then some (Char.ofNat (n + 80))
  else some c.toLower

/-- The digit of a number below 36 in the ASCII form of a label. -/
def labelDigit (n : Nat) : Char :=
  if n < 26 then Char.ofNat ('a'.toNat + n) else Char.ofNat ('0'.toNat + (n - 26))

/-- The threshold of the digit at a place. -/
def threshold (bias k : Nat) : Nat :=
  if k ≤ bias + 1 then 1 else if bias + 26 ≤ k then 26 else k - bias

/-- A number as digits whose base changes from place to place; a number takes fewer places than it
has binary digits. -/
def labelNumber (bias : Nat) : (places : Nat) → (k : Nat) → Nat → List Char
  | 0, _, q => [labelDigit q]
  | places + 1, k, q =>
    let t := threshold bias k
    if q < t then [labelDigit q]
    else labelDigit (t + (q - t) % (36 - t)) ::
      labelNumber bias places (k + 36) ((q - t) / (36 - t))

/-- How often the difference is divided before it gives the next bias. -/
def biasSteps : (steps : Nat) → (k : Nat) → Nat → Nat × Nat
  | 0, k, delta => (k, delta)
  | steps + 1, k, delta =>
    if 455 < delta then biasSteps steps (k + 36) (delta / 35) else (k, delta)

/-- The bias after a difference has been written. -/
def nextBias (delta written : Nat) (first : Bool) : Nat :=
  let delta := if first then delta / 700 else delta / 2
  let delta := delta + delta / written
  let (k, delta) := biasSteps delta.log2 0 delta
  k + 36 * delta / (delta + 38)

/-- What is known while the letters of a label are written in ascending order. -/
structure LabelState where
  /-- The least letter that is not yet written. -/
  next : Nat
  delta : Nat
  bias : Nat
  written : Nat
  output : List Char

/-- Passes over the label once and writes the letter `n` wherever it stands. -/
def writeLetter (basic : Nat) (label : List Char) (s : LabelState) (n : Nat) : LabelState :=
  let start := { s with delta := s.delta + (n - s.next) * (s.written + 1), next := n }
  let done := label.foldl (fun (s : LabelState) c =>
    if c.toNat < n then { s with delta := s.delta + 1 }
    else if c.toNat = n then
      { s with
        output := s.output ++ labelNumber s.bias (s.delta.log2 + 1) 36 s.delta
        bias := nextBias s.delta (s.written + 1) (s.written = basic)
        delta := 0
        written := s.written + 1 }
    else s) start
  { done with delta := done.delta + 1, next := n + 1 }

/-- The letters beyond ASCII, each once and in ascending order. -/
def lettersOf (label : List Char) : List Nat :=
  ((label.map Char.toNat).filter (0x80 ≤ ·)).eraseDups.mergeSort (· ≤ ·)

/-- The ASCII form of a label. A label that is in this form already is not decoded, so that a wrong
one passes. -/
def labelText (label : List Char) : List Char :=
  let basic := label.filter (·.toNat < 0x80)
  if basic.length = label.length then label
  else
    let lead := if basic = [] then [] else basic ++ ['-']
    let start : LabelState := ⟨0x80, 0, 72, basic.length, lead⟩
    ['x', 'n', '-', '-'] ++
      ((lettersOf label).foldl (writeLetter basic.length label) start).output

/-- Whether a character must not stand in a domain name. -/
def isForbidden (c : Char) : Bool :=
  c.toNat ≤ 0x20 || c.toNat = 0x7F || c.toNat = 0xFFFD ||
    ['#', '%', '/', ':', '<', '>', '?', '@', '[', '\\', ']', '^', '|'].contains c

/-- The written form of a domain name. -/
def domain (s : List Char) : Except UrlError (List Char) :=
  let folded := (Percent.decode s).filterMap fold
  let name := joinWith '.' ((splitOn '.' folded).map labelText)
  if folded.any isForbidden then .error .invalidDomain
  else if name = [] then .error .emptyHost
  else .ok name

/-- Reads the host of an address on the web. -/
def parse (s : List Char) : Except UrlError String :=
  match s with
  | [] => .error .emptyHost
  | '[' :: inner =>
    match inner.getLast? with
    | some ']' =>
      match ipv6? inner.dropLast with
      | some ns => .ok ("[" ++ ipv6Text ns ++ "]")
      | none => .error .invalidIpv6
    | _ => .error .invalidIpv6
  | _ => do
    let name ← domain s
    if endsInNumber name then
      match ipv4? name with
      | some n => return ipv4Text n
      | none => .error .invalidIpv4
    else return String.ofList name

/-- Checks the host of an address that is not on the web. -/
def checkOpaque (s : List Char) : Except UrlError Unit :=
  match s with
  | '[' :: inner =>
    if inner.getLast? = some ']' ∧ (ipv6? inner.dropLast).isSome then .ok ()
    else .error .invalidIpv6
  | _ =>
    if s.any fun c => c ≠ '%' && c.toNat ≠ 0x7F && c.toNat ≠ 0xFFFD && isForbidden c &&
        (0x20 ≤ c.toNat || c.toNat = 0)
    then .error .invalidCharacter
    else .ok ()

end Host

end Rollout.Http
