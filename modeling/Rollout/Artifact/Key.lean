import Rollout.Error
import Rollout.Text.Split

/-!
# Artifact keys

An artifact is named by its version, release and checksum, written with dashes between them. The
text is cut at its last two dashes, so a key that is read may have its parts elsewhere than the key
that was written, but its text is the same: `text_of_parse`.
-/

namespace Rollout

open Text

/-- What tells one artifact of a component from another. -/
structure Key where
  version : String
  /-- The build of the version, if it has one. -/
  release : Option String
  checksum : String
  deriving DecidableEq, Repr

namespace Key

/-- The key as it is written; a missing release leaves nothing between its dashes. -/
def text (key : Key) : String :=
  key.version ++ "-" ++ key.release.getD "" ++ "-" ++ key.checksum

/-- The three parts of a written key, with an empty release for a missing one. -/
def parts? (s : List Char) : Option (List Char × List Char × List Char) := do
  let (rest, checksum) ← splitLast '-' s
  let (version, release) ← splitLast '-' rest
  if checksum = [] ∨ version = [] then none
  else some (version, release, checksum)

/-- Reads a key; version and checksum must not be empty. -/
def parse (s : String) : Except SelectionError Key :=
  match parts? s.toList with
  | some (version, release, checksum) =>
    .ok {
      version := String.ofList version
      release := if release = [] then none else some (String.ofList release)
      checksum := String.ofList checksum }
  | none => .error (.invalidKey s)

/-- The parts are cut out at dashes and nothing else is lost. -/
theorem eq_of_parts? {s version release checksum : List Char}
    (h : parts? s = some (version, release, checksum)) :
    s = version ++ '-' :: release ++ '-' :: checksum := by
  simp only [parts?, Option.bind_eq_bind, Option.bind_eq_some_iff] at h
  obtain ⟨⟨rest, c⟩, hrest, ⟨v, r⟩, hv, h⟩ := h
  split at h
  · contradiction
  · simp only [Option.some.injEq, Prod.mk.injEq] at h
    obtain ⟨rfl, rfl, rfl⟩ := h
    have hrest' := eq_of_splitLast hrest
    rw [show rest = _ from eq_of_splitLast hv] at hrest'
    simpa using hrest'

/-- A key that is read has the text that it was read from. -/
theorem text_of_parse {s : String} {key : Key} (h : parse s = .ok key) : key.text = s := by
  simp only [parse] at h
  split at h
  · next version release checksum hp =>
    cases Except.ok.inj h
    rw [← String.toList_inj, eq_of_parts? hp]
    by_cases hr : release = [] <;> simp [text, hr]
  · contradiction

end Key

end Rollout
