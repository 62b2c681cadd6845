import Rollout.Error
import Rollout.Text.Blank
import Rollout.Text.Split
import Rollout.Version

/-!
# Stable lines

A stable line names the release train that is recommended for the engine: the first three segments
of a version. Its text is its only datum, and the type keeps what reading has checked: three
segments, none of them empty, and no blank character at either end.
-/

namespace Rollout

open Text

/-- A line of releases, written as three segments. -/
structure StableLine where
  /-- The line as it is written. -/
  text : String
  /-- The text has three segments. -/
  length_segments : (Version.segments text).length = 3
  /-- No segment is empty. -/
  nonempty_segments : ∀ segment ∈ Version.segments text, segment ≠ []
  /-- The text neither begins nor ends with a blank character. -/
  trim_text : trim text.toList = text.toList
  deriving DecidableEq, Repr

namespace StableLine

/-- Reads a stable line; blank characters around it do not count. -/
def parse (s : String) : Except CatalogError StableLine :=
  let t := String.ofList (trim s.toList)
  if h : (Version.segments t).length = 3 ∧ ∀ segment ∈ Version.segments t, segment ≠ [] then
    .ok ⟨t, h.1, h.2, by simp [t]⟩
  else
    .error (.invalidStableLine s)

/-- The reader accepts a text or complains about that text. -/
theorem parse_eq_error {s : String} {e : CatalogError} (h : parse s = .error e) :
    e = .invalidStableLine s := by
  simp only [parse] at h
  split at h
  · contradiction
  · exact (Except.error.inj h).symm

/-- A line is written as it was read, without the blank characters around it. -/
theorem text_of_parse {s : String} {line : StableLine} (h : parse s = .ok line) :
    line.text.toList = trim s.toList := by
  simp only [parse] at h
  split at h
  · cases Except.ok.inj h
    simp
  · contradiction

/-- Whether the version belongs to the line: its first three segments are those of the line. -/
def covers (line : StableLine) (version : String) : Bool :=
  (Version.segments line.text).isPrefixOf (Version.segments version)

end StableLine

end Rollout
