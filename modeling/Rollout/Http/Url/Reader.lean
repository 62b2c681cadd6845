import Rollout.Error
import Rollout.Http.Url
import Rollout.Http.Url.Host

/-!
# Reading addresses

`Url.parse` reads the text of an address as browsers do: blanks around it do not count, dot segments
are resolved, and every part is brought into its written form. An address with another scheme than
`http` and `https` is checked and then put aside.
-/

namespace Rollout.Http.Url

open Text

/-- The text without control characters and blanks at its ends, and without ignored characters. -/
def clean (s : List Char) : List Char :=
  let isOuter (c : Char) : Bool := c.toNat ≤ 0x20
  (((s.dropWhile isOuter).reverse.dropWhile isOuter).reverse).filter (!isIgnored ·)

/-- The scheme in lower case, and what follows its colon. -/
def splitScheme (s : List Char) : Option (String × List Char) :=
  let isPart (c : Char) : Bool := c.isAlphanum || c = '+' || c = '-' || c = '.'
  match s.takeWhile isPart, s.dropWhile isPart with
  | c :: cs, ':' :: rest =>
    if c.isAlpha then some (String.ofList ((c :: cs).map Char.toLower), rest) else none
  | _, _ => none

/-- The port that a scheme has without saying. -/
def defaultPort? : String → Option Nat
  | "http" | "ws" => some 80
  | "https" | "wss" => some 443
  | "ftp" => some 21
  | _ => none

/-- Cuts off the text before a host: a user name and password. -/
def splitUserInfo (authority : List Char) : List Char × List Char × List Char :=
  match splitLast '@' authority with
  | none => ([], [], authority)
  | some (info, host) =>
    match splitFirst ':' info with
    | none => (info, [], host)
    | some (user, password) => (user, password, host)

/-- Cuts a host from its port at the first colon outside brackets. -/
def splitPort (inside : Bool) : List Char → List Char × Option (List Char)
  | [] => ([], none)
  | c :: cs =>
    if c = ':' ∧ inside = false then ([], some cs)
    else
      let inside := if c = '[' then true else if c = ']' then false else inside
      let (host, port) := splitPort inside cs
      (c :: host, port)

/-- Reads a port; the scheme's own counts as none. -/
def readPort (scheme : String) : Option (List Char) → Except UrlError (Option Nat)
  | none | some [] => .ok none
  | some digits =>
    match (inBase? 10 digits).filter (· < 65536) with
    | some n => .ok (if defaultPort? scheme = some n then none else some n)
    | none => .error .invalidPort

/-- A segment as it is written, with its dots in plain form. -/
def plainDots : List Char → List Char
  | '%' :: '2' :: e :: cs =>
    if e = 'e' ∨ e = 'E' then '.' :: plainDots cs else '%' :: plainDots ('2' :: e :: cs)
  | c :: cs => c :: plainDots cs
  | [] => []

/-- Adds the next segment of a path to those before it, latest first. A double dot takes the last
one away; a dot segment at the end leaves an empty segment. -/
def addSegment (isLast : Bool) (done : List (List Char)) (s : List Char) : List (List Char) :=
  let dots := plainDots s
  if dots = ['.', '.'] then
    if isLast then [] :: done.tail else done.tail
  else if dots = ['.'] then
    if isLast then [] :: done else done
  else Percent.encode Percent.inPath s :: done

/-- Resolves the dot segments of a path. -/
def resolve (done : List (List Char)) : List (List Char) → List (List Char)
  | [] => done.reverse
  | [s] => (addSegment true done s).reverse
  | s :: rest => resolve (addSegment false done s) rest

/-- The segments of a path, where a backslash is a slash. -/
def readPath (s : List Char) : List (List Char) :=
  let s := s.map fun c => if c = '\\' then '/' else c
  let s := match s with
    | '/' :: rest => rest
    | s => s
  resolve [] (splitOn '/' s)

/-- Cuts off what follows the first of a character. -/
def cutAt (c : Char) (s : List Char) : List Char × Option (List Char) :=
  match splitFirst c s with
  | none => (s, none)
  | some (before, after) => (before, some after)

/-- Reads what follows the slashes after the scheme. -/
def readRest (scheme : String) (s : List Char) : Except UrlError Url := do
  let isEnd (c : Char) : Bool := c = '/' || c = '\\' || c = '?' || c = '#'
  let (user, password, hostAndPort) := splitUserInfo (s.takeWhile (!isEnd ·))
  let (host, port) := splitPort false hostAndPort
  let host ← Host.parse host
  let port ← readPort scheme port
  let (s, fragment) := cutAt '#' (s.dropWhile (!isEnd ·))
  let (path, query) := cutAt '?' s
  let written (mustEncode : Char → Bool) (s : List Char) :=
    String.ofList (Percent.encode mustEncode s)
  return {
    scheme
    user := written Percent.inUserInfo user
    password := written Percent.inUserInfo password
    host
    port
    segments := readPath path
    query := query.map (written Percent.inQuery)
    fragment := fragment.map (written Percent.inFragment) }

/-- Checks an address with a scheme that says nothing about its form. -/
def checkOther (s : List Char) : Except UrlError Unit :=
  match s with
  | '/' :: '/' :: s => do
    let isEnd (c : Char) : Bool := c = '/' || c = '?' || c = '#'
    let (_, _, hostAndPort) := splitUserInfo (s.takeWhile (!isEnd ·))
    let (host, port) := splitPort false hostAndPort
    Host.checkOpaque host
    discard (readPort "" port)
  | _ => .ok ()

/-- Reads an address; one that is not on the web is `none`. -/
def parse (s : String) : Except UrlError (Option Url) :=
  match splitScheme (clean s.toList) with
  | none => .error .relative
  | some (scheme, rest) =>
    let afterSlashes := rest.dropWhile fun c => c = '/' || c = '\\'
    if scheme = "http" ∨ scheme = "https" then (readRest scheme afterSlashes).map some
    else if scheme = "file" then .ok none
    else if (defaultPort? scheme).isSome then (readRest scheme afterSlashes).map fun _ => none
    else (checkOther rest).map fun _ => none

/-- Reads the base address of the service, with a slash at the end of its path. -/
def parseBase (s : String) : Except NetworkError Url :=
  match parse s with
  | .error e => .error (.invalidUrl (s ++ ": " ++ e.message))
  | .ok none => .error (.invalidUrl s)
  | .ok (some url) => .ok url.withSlash

end Rollout.Http.Url
