import Rollout.Artifact
import Rollout.Component

/-!
# Selections

A selection holds at most one chosen artifact for each component.
-/

namespace Rollout

/-- The chosen artifact of each component. -/
@[ext] structure Selection where
  /-- The artifact of each component, `none` if none is chosen. -/
  chosen : ByComponent (Option Artifact)
  deriving DecidableEq, Repr

namespace Selection

/-- The selection in which nothing is chosen. -/
def empty : Selection :=
  ⟨.ofFn fun _ => none⟩

/-- The chosen artifact of a component. -/
def get? (selection : Selection) (c : Component) : Option Artifact :=
  selection.chosen.get c

/-- The selection with an artifact chosen for a component. -/
def set (selection : Selection) (c : Component) (a : Artifact) : Selection :=
  ⟨selection.chosen.set c (some a)⟩

/-- The selection with nothing chosen for a component. -/
def clear (selection : Selection) (c : Component) : Selection :=
  ⟨selection.chosen.set c none⟩

/-- Whether an artifact is chosen for the component. -/
def contains (selection : Selection) (c : Component) : Bool :=
  (selection.get? c).isSome

/-- The components for which an artifact is chosen, with it. -/
def entries (selection : Selection) : List (Component × Artifact) :=
  selection.chosen.present

/-- Whether nothing is chosen. -/
def isEmpty (selection : Selection) : Bool :=
  selection.entries.isEmpty

/-- What is chosen for a component is its artifact. -/
@[simp] theorem get?_set_self (selection : Selection) (c : Component) (a : Artifact) :
    (selection.set c a).get? c = some a := by
  simp [set, get?]

/-- A choice leaves the other components as they are. -/
@[simp] theorem get?_set_of_ne (selection : Selection) {c d : Component} (a : Artifact)
    (h : c ≠ d) : (selection.set c a).get? d = selection.get? d := by
  simp [set, get?, h]

/-- What is cleared has no artifact. -/
@[simp] theorem get?_clear_self (selection : Selection) (c : Component) :
    (selection.clear c).get? c = none := by
  simp [clear, get?]

/-- Clearing leaves the other components as they are. -/
@[simp] theorem get?_clear_of_ne (selection : Selection) {c d : Component} (h : c ≠ d) :
    (selection.clear c).get? d = selection.get? d := by
  simp [clear, get?, h]

/-- In the empty selection nothing is chosen. -/
@[simp] theorem get?_empty (c : Component) : empty.get? c = none := by
  simp [empty, get?]

/-- Two selections that choose the same are equal. -/
theorem ext_get? {s t : Selection} (h : ∀ c, s.get? c = t.get? c) : s = t :=
  Selection.ext (ByComponent.ext_get h)

end Selection

end Rollout
