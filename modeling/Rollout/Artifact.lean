import Rollout.Artifact.Key
import Rollout.Edition
import Rollout.Text.Blank
import Rollout.Version

/-!
# Artifacts

An artifact is one installable build of a component.
-/

namespace Rollout

open Text

/-- One installable build of a component. -/
structure Artifact where
  version : String
  /-- The build of the version, if it has one. -/
  release : Option String
  checksum : String
  edition : Edition
  /-- The estimated size in bytes. -/
  size : UInt64
  origin : Origin
  deriving DecidableEq, Repr

namespace Artifact

/-- The key that names the artifact within its component. -/
def key (a : Artifact) : Key :=
  ⟨a.version, a.release, a.checksum⟩

/-- Whether a key names the artifact. Keys are compared as texts, because a key that was read may
have a dash in another part than the artifact has. -/
def hasKey (a : Artifact) (key : Key) : Bool :=
  a.key.text == key.text

/-- The character of the version at a position. -/
def versionChar? (a : Artifact) (position : Nat) : Option Char :=
  a.version.toList[position]?

/-- The first character of the version, if it is a digit. -/
def majorDigit? (a : Artifact) : Option Nat :=
  (a.versionChar? 0).bind digit?

/-- The number before the first dot of the release. -/
def leadingRelease? (a : Artifact) : Option Nat := do
  let release ← a.release
  let first ← (splitOn '.' release.toList).head?
  unsigned? UInt64.size (trim first)

/-- The version with its release, if that is not empty. -/
def displayVersion (a : Artifact) : String :=
  match a.release with
  | none | some "" => a.version
  | some release => a.version ++ "-" ++ release

/-- An artifact has its own key. -/
@[simp] theorem hasKey_key (a : Artifact) : a.hasKey a.key := by
  simp [hasKey]

end Artifact

end Rollout
