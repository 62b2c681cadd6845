/-!
# Cutting text at a separator

Text is cut here as a list of characters. `splitOn` cuts at every separator and never gives an
empty list of pieces; `joinWith` is its inverse, and `joinWith_splitOn` says that nothing is lost.
`splitFirst` and `splitLast` cut once, at the first and at the last separator.
-/

namespace Rollout.Text

/-- The pieces of the text between separators: one more piece than there are separators. -/
def splitOn (sep : Char) : List Char → List (List Char)
  | [] => [[]]
  | c :: cs =>
    if c = sep then [] :: splitOn sep cs
    else
      match splitOn sep cs with
      | [] => [[c]]
      | piece :: pieces => (c :: piece) :: pieces

/-- The pieces with one separator between neighbours. -/
def joinWith (sep : Char) : List (List Char) → List Char
  | [] => []
  | [piece] => piece
  | piece :: pieces => piece ++ sep :: joinWith sep pieces

/-- The text before and after the first separator. -/
def splitFirst (sep : Char) : List Char → Option (List Char × List Char)
  | [] => none
  | c :: cs =>
    if c = sep then some ([], cs)
    else (splitFirst sep cs).map fun (before, after) => (c :: before, after)

/-- The text before and after the last separator. -/
def splitLast (sep : Char) : List Char → Option (List Char × List Char)
  | [] => none
  | c :: cs =>
    match splitLast sep cs with
    | some (before, after) => some (c :: before, after)
    | none => if c = sep then some ([], cs) else none

/-- Text has at least one piece. -/
theorem splitOn_ne_nil (sep : Char) (s : List Char) : splitOn sep s ≠ [] := by
  cases s with
  | nil => simp [splitOn]
  | cons c cs =>
    rw [splitOn]
    split
    · simp
    · split <;> simp

/-- Joining the pieces gives the text back. -/
theorem joinWith_splitOn (sep : Char) (s : List Char) : joinWith sep (splitOn sep s) = s := by
  induction s with
  | nil => rfl
  | cons c cs ih =>
    rw [splitOn]
    split
    · next h =>
      -- The empty piece before a separator is joined to the others by it.
      subst h
      cases hp : splitOn c cs with
      | nil => exact absurd hp (splitOn_ne_nil c cs)
      | cons piece pieces =>
        show c :: joinWith c (piece :: pieces) = c :: cs
        rw [← hp, ih]
    · -- Any other character is the first of the first piece, whether or not others follow.
      cases hp : splitOn sep cs with
      | nil => exact absurd hp (splitOn_ne_nil sep cs)
      | cons piece pieces =>
        rw [hp] at ih
        rw [← ih]
        cases pieces <;> rfl

/-- Cutting at the last separator loses only that separator. -/
theorem eq_of_splitLast {sep : Char} {s before after : List Char}
    (h : splitLast sep s = some (before, after)) : s = before ++ sep :: after := by
  induction s generalizing before with
  | nil => simp [splitLast] at h
  | cons c cs ih =>
    rw [splitLast] at h
    split at h
    · next b a hb =>
      -- The cut is further on, and this character comes before it.
      simp only [Option.some.injEq, Prod.mk.injEq] at h
      obtain ⟨rfl, rfl⟩ := h
      rw [ih hb]
      rfl
    · split at h
      · next hc =>
        -- The cut is here, since no separator follows.
        simp only [Option.some.injEq, Prod.mk.injEq] at h
        obtain ⟨rfl, rfl⟩ := h
        simp [hc]
      · simp at h

/-- The pieces of a string, as strings. -/
def pieces (sep : Char) (s : String) : List String :=
  (splitOn sep s.toList).map String.ofList

/-- Whether the text begins with `lead`. -/
def startsWith (lead s : String) : Bool :=
  lead.toList.isPrefixOf s.toList

end Rollout.Text
