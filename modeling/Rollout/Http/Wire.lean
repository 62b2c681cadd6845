import Rollout.Http.Client
import Rollout.Text.Encoding
import Rollout.Text.Numeral

/-!
# Requests and answers on the wire

A request is sent as lines of text. An answer is read from the bytes that have come: its head says
how its body is framed, in chunks, by a length, or by the end of the connection, and may name the
encoding of its text. What has come may be too little to tell, and may be no answer at all.
-/

namespace Rollout.Http.Wire

open Service Text

/-- The digit of a number below 64. -/
def base64Digit (n : Nat) : Char :=
  if n < 26 then Char.ofNat ('A'.toNat + n)
  else if n < 52 then Char.ofNat ('a'.toNat + (n - 26))
  else if n < 62 then Char.ofNat ('0'.toNat + (n - 52))
  else if n = 62 then '+' else '/'

/-- Bytes as digits, four for every three bytes. -/
def base64 : List UInt8 → List Char
  | [] => []
  | [a] =>
    let n := 16 * a.toNat
    [base64Digit (n / 64), base64Digit (n % 64), '=', '=']
  | [a, b] =>
    let n := 4 * (256 * a.toNat + b.toNat)
    [base64Digit (n / 4096), base64Digit (n / 64 % 64), base64Digit (n % 64), '=']
  | a :: b :: c :: bytes =>
    let n := 65536 * a.toNat + 256 * b.toNat + c.toNat
    base64Digit (n / 262144) :: base64Digit (n / 4096 % 64) :: base64Digit (n / 64 % 64) ::
      base64Digit (n % 64) :: base64 bytes

/-- Two bytes more than a multiple of three are filled up with one sign. -/
example : base64 (Utf8.encode "me:12".toList) = "bWU6MTI=".toList := by decide +kernel

/-- The lines that give the user name and the password of an address, if it has them. -/
def authorization (url : Url) : List String :=
  if url.user = "" ∧ url.password = "" then []
  else
    let plain := Percent.decode url.user.toList ++ ':' :: Percent.decode url.password.toList
    ["authorization: Basic " ++ String.ofList (base64 (Utf8.encode plain))]

/-- A request as it is sent; the connection serves this request only. -/
def requestText (agent : String) (request : Request) (url : Url) : String :=
  "\r\n".intercalate <| [
    request.method ++ " " ++ url.target ++ " HTTP/1.1",
    "host: " ++ url.authority,
    "accept: */*",
    "user-agent: " ++ agent] ++
    authorization url ++ ["connection: close", "", ""]

/-- What the bytes that have come amount to. -/
inductive Received (α : Type) where
  /-- More must come. -/
  | incomplete
  /-- No further bytes can make sense of these. -/
  | broken
  | complete (value : α)
  deriving Repr

/-- Goes on with what is complete. -/
def Received.bind {α β : Type} : Received α → (α → Received β) → Received β
  | incomplete, _ => incomplete
  | broken, _ => broken
  | complete x, f => f x

instance : Monad Received where
  pure := .complete
  bind := .bind

/-- The bytes up to a line feed, and those after it. -/
def splitLine : List UInt8 → Received (List UInt8 × List UInt8)
  | [] => .incomplete
  | 10 :: rest => .complete ([], rest)
  | b :: rest => (splitLine rest).bind fun (line, rest) => .complete (b :: line, rest)

/-- A line of text without its end, and the bytes after it. -/
def line (bytes : List UInt8) : Received (String × List UInt8) := do
  let (line, rest) ← splitLine bytes
  return (String.ofList (trimEnd (line.map fun b => Char.ofNat b.toNat)), rest)

/-- The lines up to an empty one, and the bytes after it; `limit` bounds their number. -/
def lines : (limit : Nat) → List UInt8 → Received (List String × List UInt8)
  | 0, _ => .broken
  | limit + 1, bytes => do
    let (first, rest) ← line bytes
    if first = "" then return ([], rest)
    else
      let (others, rest) ← lines limit rest
      return (first :: others, rest)

/-- The head of an answer. -/
structure Head where
  status : UInt16
  /-- The fields, with their names in small letters. -/
  fields : List (String × String)
  deriving DecidableEq, Repr

/-- A field of a head. -/
def field? (s : String) : Option (String × String) :=
  (splitFirst ':' s.toList).map fun (name, value) =>
    (String.ofList (name.map Char.toLower), String.ofList (trim value))

/-- The status in the first line of an answer. -/
def status? (s : String) : Option UInt16 :=
  match splitOn ' ' s.toList with
  | version :: code :: _ =>
    if startsWith "HTTP/1." (String.ofList version) ∧ code.length = 3 then
      (digits? code).map UInt16.ofNat
    else none
  | _ => none

/-- The head of an answer, and the bytes after it. -/
def head (bytes : List UInt8) : Received (Head × List UInt8) := do
  let (lines, rest) ← lines (bytes.length + 1) bytes
  match lines with
  | [] => .broken
  | first :: others =>
    match status? first with
    | none => .broken
    | some status => return (⟨status, others.filterMap field?⟩, rest)

/-- A body in chunks, each after a line with its length; `limit` bounds their number. -/
def chunks : (limit : Nat) → List UInt8 → Received (List UInt8)
  | 0, _ => .broken
  | limit + 1, bytes => do
    let (size, rest) ← line bytes
    match inBase? 16 (trim (size.toList.takeWhile (· ≠ ';'))) with
    | none => .broken
    | some 0 => return []
    | some n =>
      if rest.length < n then .incomplete
      else
        let (_, after) ← line (rest.drop n)
        return rest.take n ++ (← chunks limit after)

/-- The body after a head; `ended` tells whether the connection has ended. -/
def body (h : Head) (ended : Bool) (bytes : List UInt8) : Received (List UInt8) :=
  if Status.isBodiless h.status.toNat then .complete []
  else if (h.fields.lookup "transfer-encoding").isSome then chunks (bytes.length + 1) bytes
  else
    match h.fields.lookup "content-length" with
    | none => if ended then .complete bytes else .incomplete
    | some size =>
      match digits? size.toList with
      | none => .broken
      | some n => if bytes.length < n then .incomplete else .complete (bytes.take n)

/-- A parameter of a content type: its name in small letters, and its value out of quotes. -/
def parameter? (s : List Char) : Option (List Char × List Char) :=
  (splitFirst '=' s).map fun (name, value) =>
    ((trim name).map Char.toLower, (trim value).filter (· ≠ '"'))

/-- The encoding that a content type names. -/
def charset (contentType : String) : Encoding :=
  let parameters := ((splitOn ';' contentType.toList).drop 1).filterMap parameter?
  ((parameters.lookup "charset".toList).map Encoding.ofLabel).getD .utf8

/-- The answer in the bytes that have come; interim answers before it do not count. `limit` bounds
their number. -/
def answer (ended : Bool) : (limit : Nat) → List UInt8 → Received Response
  | 0, _ => .broken
  | limit + 1, bytes => do
    let (h, rest) ← head bytes
    if 100 ≤ h.status ∧ h.status < 200 then answer ended limit rest
    else
      let encoding := charset ((h.fields.lookup "content-type").getD "")
      return ⟨h.status, encoding.decodeBody (← body h ended rest)⟩

/-- What the bytes that have come say of a request; `none` asks for more. A connection that has
ended must have brought a whole answer. -/
def outcome? (ended : Bool) (bytes : List UInt8) : Option Outcome :=
  match answer ended (bytes.length + 1) bytes with
  | .complete response => some (.answered response)
  | .broken => some (.failed ⟨false, false⟩)
  | .incomplete => if ended then some (.failed ⟨false, false⟩) else none

end Rollout.Http.Wire
