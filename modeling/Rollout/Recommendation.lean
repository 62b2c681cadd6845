import Rollout.Catalog
import Rollout.StableLine

/-!
# Recommended artifacts

The first artifact of a component is recommended, except for the engine when a stable line is
preferred and at least two artifacts belong to it. Then the one with the highest leading release is,
and the first of several with the same.
-/

namespace Rollout

/-- Whether the first artifact has the higher leading release, where none is lower than any. -/
def hasHigherRelease (a b : Artifact) : Bool :=
  match a.leadingRelease?, b.leadingRelease? with
  | some m, some n => n < m
  | some _, none => true
  | none, _ => false

/-- The artifact with the highest leading release, the first of several. -/
def highestRelease (first : Artifact) (rest : List Artifact) : Artifact :=
  rest.foldl (fun best a => if hasHigherRelease a best then a else best) first

/-- The recommended artifact of a component. -/
def recommend (catalog : Catalog) (line : Option StableLine) (c : Component) : Option Artifact :=
  let artifacts := catalog.artifacts c
  match c, line with
  | .core, some line =>
    match artifacts.filter fun a => line.covers a.version with
    | first :: second :: rest => some (highestRelease first (second :: rest))
    | _ => artifacts.head?
  | _, _ => artifacts.head?

end Rollout
