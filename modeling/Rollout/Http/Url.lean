import Rollout.Text.Percent
import Rollout.Text.Split

/-!
# Addresses on the web

An address is kept in the form in which it is written: lower-case scheme and host, encoded segments,
no default port. Addresses of the service are made from its base address by adding segments to the
path, and a segment that is added is encoded, so that it stays one segment.
-/

namespace Rollout.Http

open Text

/-- An address with the scheme `http` or `https`. -/
structure Url where
  scheme : String
  /-- The user name, empty if there is none. -/
  user : String
  /-- The password, empty if there is none. -/
  password : String
  host : String
  /-- The port, if it is not the scheme's own. -/
  port : Option Nat
  /-- The segments of the path, at least one, in encoded form. -/
  segments : List (List Char)
  /-- What follows the question mark. -/
  query : Option String
  /-- What follows the number sign. -/
  fragment : Option String
  deriving DecidableEq, Repr

namespace Url

/-- The path with a slash before each segment. -/
def path (url : Url) : String :=
  String.ofList (url.segments.flatMap ('/' :: ·))

/-- The path and the query, which a request sends. -/
def target (url : Url) : String :=
  url.path ++ match url.query with
    | none => ""
    | some query => "?" ++ query

/-- The user name and password before the host. -/
def userInfo (url : Url) : String :=
  if url.user = "" ∧ url.password = "" then ""
  else url.user ++ (if url.password = "" then "" else ":" ++ url.password) ++ "@"

/-- The host with its port. -/
def authority (url : Url) : String :=
  url.host ++ match url.port with
    | none => ""
    | some port => ":" ++ toString port

/-- The address as it is written. -/
def text (url : Url) : String :=
  url.scheme ++ "://" ++ url.userInfo ++ url.authority ++ url.target ++
    match url.fragment with
    | none => ""
    | some fragment => "#" ++ fragment

/-- The address without a user name and a password. -/
def withoutUser (url : Url) : Url :=
  { url with user := "", password := "" }

/-- The segments with the empty one at their end left out, unless it is the only one. -/
def dropEmptyLast : List (List Char) → List (List Char)
  | [] => []
  | [s] => [s]
  | s :: t :: rest =>
    if rest = [] ∧ t = [] then [s] else s :: dropEmptyLast (t :: rest)

/-- The segments with one more at their end. A path of one empty segment is the bare slash, and the
new segment takes its place. -/
def append (segments : List (List Char)) (s : List Char) : List (List Char) :=
  if segments = [[]] then [s] else segments ++ [s]

/-- Whether a character is left out of an address wherever it stands. -/
def isIgnored (c : Char) : Bool :=
  c = '\t' || c = '\n' || c = '\r'

/-- The segments after adding one that is given as plain text. The two dot segments add nothing. If
only characters that are left out keep a text from being a dot segment, it is taken for one: a
single dot ends the path with a slash, a double dot also takes the last segment away. -/
def push (segments : List (List Char)) (s : List Char) : List (List Char) :=
  if s = ['.'] ∨ s = ['.', '.'] then segments
  else
    let s := s.filter (!isIgnored ·)
    if s = ['.'] then append segments []
    else if s = ['.', '.'] then append segments.dropLast []
    else append segments (Percent.encode Percent.inSegment s)

/-- The address with more segments at the end of its path. -/
def extend (url : Url) (more : List String) : Url :=
  { url with
    segments := more.foldl (fun segments s => push segments s.toList) (dropEmptyLast url.segments) }

/-- The address with one more pair in its query. -/
def withPair (url : Url) (name value : String) : Url :=
  let pair := String.ofList
    (Percent.encodeForm name.toList ++ '=' :: Percent.encodeForm value.toList)
  let query := match url.query with
    | none | some "" => pair
    | some query => query ++ "&" ++ pair
  { url with query := some query }

/-- The address with a slash at the end of its path. -/
def withSlash (url : Url) : Url :=
  if url.segments.getLast? = some [] then url
  else { url with segments := url.segments ++ [[]] }

end Url

end Rollout.Http
