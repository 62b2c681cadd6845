import Rollout.Text.Split

/-!
# Where text is cut

`splitLast` and `splitFirst` cut at the separator that has none after it or before it, and this
determines the cut (`splitLast_eq_some_iff`, `splitFirst_append`). Text with a separator in it is
cut at that separator or at a later one (`exists_splitLast`). Of the pieces between all separators
the first one ends at the first separator (`head?_splitOn`), none has a separator in it
(`notMem_of_mem_splitOn`), and they begin with the pieces of another text exactly if the text is
that one or goes on after it with a separator (`splitOn_prefix_iff`).
-/

namespace Rollout.Text

variable {sep : Char}

/-! ## The last separator -/

/-- Text without a separator is not cut. -/
theorem splitLast_eq_none_iff {s : List Char} : splitLast sep s = none ↔ sep ∉ s := by
  induction s with
  | nil => simp [splitLast]
  | cons c cs ih =>
    rw [splitLast, List.mem_cons, not_or, ← ih]
    cases splitLast sep cs with
    | none =>
      by_cases hc : c = sep
      · simp [hc]
      · simp [hc, Ne.symm hc]
    | some cut => simp

/-- If no separator comes after it, text is cut at this one. -/
theorem splitLast_append {before after : List Char} (h : sep ∉ after) :
    splitLast sep (before ++ sep :: after) = some (before, after) := by
  induction before with
  | nil =>
    show splitLast sep (sep :: after) = _
    rw [splitLast, splitLast_eq_none_iff.2 h]
    simp
  | cons c before ih =>
    show splitLast sep (c :: (before ++ sep :: after)) = _
    rw [splitLast, ih]

/-- No separator is left after the cut. -/
theorem notMem_of_splitLast {s before after : List Char}
    (h : splitLast sep s = some (before, after)) : sep ∉ after := by
  induction s generalizing before with
  | nil => simp [splitLast] at h
  | cons c cs ih =>
    rw [splitLast] at h
    cases hcut : splitLast sep cs with
    | some cut =>
      rw [hcut] at h
      simp only [Option.some.injEq, Prod.mk.injEq] at h
      -- A cut further on has the same text after it.
      have hcut' : splitLast sep cs = some (cut.1, after) := by rw [hcut, ← h.2]
      exact ih hcut'
    | none =>
      rw [hcut] at h
      -- Otherwise no separator follows, and the cut can only be here.
      by_cases hc : c = sep
      · simp only [hc, if_true, Option.some.injEq, Prod.mk.injEq] at h
        rw [← h.2]
        exact splitLast_eq_none_iff.1 hcut
      · simp [hc] at h

/-- A cut is at the last separator, and that separator alone is lost. -/
theorem splitLast_eq_some_iff {s before after : List Char} :
    splitLast sep s = some (before, after) ↔ s = before ++ sep :: after ∧ sep ∉ after := by
  constructor
  · intro h
    exact ⟨eq_of_splitLast h, notMem_of_splitLast h⟩
  · rintro ⟨rfl, h⟩
    exact splitLast_append h

/-- Text with a separator in it is cut. -/
theorem exists_splitLast_of_mem {s : List Char} (h : sep ∈ s) :
    ∃ before after, splitLast sep s = some (before, after) := by
  cases hcut : splitLast sep s with
  | none => exact absurd h (splitLast_eq_none_iff.1 hcut)
  | some cut => exact ⟨cut.1, cut.2, rfl⟩

/-- Text with a separator in it is cut there or later, so that what comes before it stays whole. -/
theorem exists_splitLast (sep : Char) (before after : List Char) :
    ∃ middle last, splitLast sep (before ++ sep :: after) = some (before ++ middle, last) ∧
      sep :: after = middle ++ sep :: last := by
  cases hcut : splitLast sep after with
  | none =>
    refine ⟨[], after, ?_, rfl⟩
    rw [List.append_nil]
    exact splitLast_append (splitLast_eq_none_iff.1 hcut)
  | some cut =>
    obtain ⟨middle, last⟩ := cut
    -- A later separator takes this one into the text before the cut.
    obtain ⟨rfl, hlast⟩ := splitLast_eq_some_iff.1 hcut
    refine ⟨sep :: middle, last, ?_, rfl⟩
    have hassoc : before ++ sep :: (middle ++ sep :: last) =
        (before ++ sep :: middle) ++ sep :: last := by simp
    rw [hassoc]
    exact splitLast_append hlast

/-- Two texts that are equal are cut alike, if nothing after either cut has a separator. -/
theorem append_sep_inj {before before' after after' : List Char}
    (h : before ++ sep :: after = before' ++ sep :: after') (hafter : sep ∉ after)
    (hafter' : sep ∉ after') : before = before' ∧ after = after' := by
  have hcut : some (before, after) = some (before', after') := by
    rw [← splitLast_append hafter, h, splitLast_append hafter']
  simpa using hcut

/-! ## The first separator -/

/-- If no separator comes before it, text is cut at this one. -/
theorem splitFirst_append {before after : List Char} (h : sep ∉ before) :
    splitFirst sep (before ++ sep :: after) = some (before, after) := by
  induction before with
  | nil => simp [splitFirst]
  | cons c before ih =>
    rw [List.mem_cons, not_or] at h
    show splitFirst sep (c :: (before ++ sep :: after)) = _
    rw [splitFirst, if_neg (Ne.symm h.1), ih h.2]
    rfl

/-! ## Pieces -/

/-- The first piece is the text before the first separator. -/
theorem head?_splitOn (s : List Char) : (splitOn sep s).head? = some (s.takeWhile (· ≠ sep)) := by
  induction s with
  | nil => rfl
  | cons c cs ih =>
    rw [splitOn]
    by_cases hc : c = sep
    · rw [if_pos hc, List.takeWhile_cons_of_neg (by simp [hc])]
      rfl
    · rw [if_neg hc, List.takeWhile_cons_of_pos (by simp [hc])]
      cases hpieces : splitOn sep cs with
      | nil => exact absurd hpieces (splitOn_ne_nil sep cs)
      | cons piece pieces =>
        rw [hpieces] at ih
        simpa using ih

/-- Text without a separator is one piece. -/
theorem splitOn_of_notMem {s : List Char} (h : sep ∉ s) : splitOn sep s = [s] := by
  induction s with
  | nil => rfl
  | cons c s ih =>
    obtain ⟨hc, hs⟩ := List.ne_and_not_mem_of_not_mem_cons h
    rw [splitOn, if_neg (Ne.symm hc), ih hs]

/-- No piece has a separator in it. -/
theorem notMem_of_mem_splitOn {s piece : List Char} (h : piece ∈ splitOn sep s) : sep ∉ piece := by
  induction s generalizing piece with
  | nil => simp_all [splitOn]
  | cons c s ih =>
    rw [splitOn] at h
    by_cases hc : c = sep
    · -- A separator begins a new piece, which is empty so far.
      rw [if_pos hc] at h
      rcases List.mem_cons.1 h with rfl | h
      · exact List.not_mem_nil
      · exact ih h
    · -- Any other character comes in front of the first piece.
      rw [if_neg hc] at h
      cases hpieces : splitOn sep s with
      | nil => exact absurd hpieces (splitOn_ne_nil sep s)
      | cons first pieces =>
        rw [hpieces] at h ih
        rcases List.mem_cons.1 h with rfl | h
        · exact List.not_mem_cons_of_ne_of_not_mem (Ne.symm hc) (ih List.mem_cons_self)
        · exact ih (List.mem_cons_of_mem _ h)

/-- The pieces before a separator are followed by those after it. -/
theorem splitOn_append_sep (before after : List Char) :
    splitOn sep (before ++ sep :: after) = splitOn sep before ++ splitOn sep after := by
  induction before with
  | nil => exact if_pos rfl
  | cons c before ih =>
    rw [List.cons_append, splitOn, splitOn, ih]
    by_cases hc : c = sep
    · rw [if_pos hc, if_pos hc, List.cons_append]
    · rw [if_neg hc, if_neg hc]
      cases hpieces : splitOn sep before with
      | nil => exact absurd hpieces (splitOn_ne_nil sep before)
      | cons piece pieces => rfl

/-- Two rows of pieces are joined with a separator between them. -/
theorem joinWith_append {first second : List (List Char)} (hfirst : first ≠ [])
    (hsecond : second ≠ []) :
    joinWith sep (first ++ second) = joinWith sep first ++ sep :: joinWith sep second := by
  induction first with
  | nil => exact absurd rfl hfirst
  | cons piece first ih =>
    obtain ⟨next, second, rfl⟩ := List.exists_cons_of_ne_nil hsecond
    cases first with
    | nil => rfl
    | cons piece' first =>
      have hrest := ih (List.cons_ne_nil _ _)
      show piece ++ sep :: joinWith sep ((piece' :: first) ++ next :: second) =
        (piece ++ sep :: joinWith sep (piece' :: first)) ++ sep :: joinWith sep (next :: second)
      rw [hrest, List.append_assoc, List.cons_append]

/-- The pieces of a text begin with those of another one exactly if it is that text, or goes on
after it with a separator. -/
theorem splitOn_prefix_iff {lead s : List Char} :
    splitOn sep lead <+: splitOn sep s ↔ s = lead ∨ ∃ rest, s = lead ++ sep :: rest := by
  constructor
  · rintro ⟨pieces, hpieces⟩
    -- Joined again, the pieces that follow make what follows the text.
    have hjoined : joinWith sep (splitOn sep lead ++ pieces) = s := by
      rw [hpieces, joinWith_splitOn]
    by_cases hnil : pieces = []
    · left
      rw [← hjoined, hnil, List.append_nil, joinWith_splitOn]
    · right
      refine ⟨joinWith sep pieces, ?_⟩
      rw [← hjoined, joinWith_append (splitOn_ne_nil sep lead) hnil, joinWith_splitOn]
  · rintro (rfl | ⟨rest, rfl⟩)
    · exact List.prefix_refl _
    · rw [splitOn_append_sep]
      exact List.prefix_append _ _

end Rollout.Text
