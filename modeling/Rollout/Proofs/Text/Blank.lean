import Rollout.Text.Blank

/-!
# What is left without the blank characters around it

`TrimsTo` says what trimming leaves: a text that neither begins nor ends with a blank character, and
around which there was nothing else. There is one such text (`trim_eq_iff`).
-/

namespace Rollout.Text

/-- `rest` is the text without the blank characters around it. -/
structure TrimsTo (s rest : List Char) : Prop where
  surrounded : ∃ before after, s = before ++ (rest ++ after) ∧
    (∀ c ∈ before, isBlank c = true) ∧ ∀ c ∈ after, isBlank c = true
  head_plain : ∀ c ∈ rest.head?, isBlank c = false
  last_plain : ∀ c ∈ rest.getLast?, isBlank c = false

/-- Blank characters are dropped up to one that is not blank. -/
theorem dropWhile_isBlank_append {blank rest : List Char} (hblank : ∀ c ∈ blank, isBlank c = true)
    (hrest : ∀ c ∈ rest.head?, isBlank c = false) : (blank ++ rest).dropWhile isBlank = rest := by
  rw [List.dropWhile_append_of_pos hblank]
  cases rest with
  | nil => rfl
  | cons c rest => exact List.dropWhile_cons_of_neg (by simp [hrest c rfl])

/-- What is left after the blank characters at the beginning does not begin with one. -/
theorem isBlank_head_dropWhile {s : List Char} :
    ∀ c ∈ (s.dropWhile isBlank).head?, isBlank c = false := by
  intro c hc
  have hhead := List.head?_dropWhile_not isBlank s
  rw [Option.mem_def.1 hc] at hhead
  simpa using hhead

/-- What trimming leaves begins and ends with no blank character, and only such were around it. -/
theorem trimsTo_trim (s : List Char) : TrimsTo s (trim s) := by
  refine ⟨?_, ?_, ?_⟩
  · -- What was taken away at the beginning and at the end is blank.
    obtain ⟨after, hafter, hblank⟩ := trimEnd_append_eq (s.dropWhile isBlank)
    refine ⟨s.takeWhile isBlank, after, ?_, ?_, hblank⟩
    · rw [trim, ← hafter, List.takeWhile_append_dropWhile]
    · exact fun c hc => List.all_eq_true.1 List.all_takeWhile c hc
  · -- Trimming the end leaves the beginning as it was, unless nothing is left at all.
    have hdropped : ([] ++ s.dropWhile isBlank).dropWhile isBlank = s.dropWhile isBlank :=
      dropWhile_isBlank_append (by simp) isBlank_head_dropWhile
    rw [trim, ← dropWhile_trimEnd (s := s.dropWhile isBlank) hdropped]
    exact isBlank_head_dropWhile
  · intro c hc
    rcases trimEnd_eq (s.dropWhile isBlank) with hnil | ⟨t, last, hlast, hplain⟩
    · rw [trim, hnil] at hc
      simp at hc
    · rw [trim, hlast, List.getLast?_concat] at hc
      cases hc
      exact hplain

/-- Trimming leaves exactly what is surrounded by blank characters. -/
theorem trim_eq_iff {s rest : List Char} : trim s = rest ↔ TrimsTo s rest := by
  constructor
  · rintro rfl
    exact trimsTo_trim s
  · rintro ⟨⟨before, after, rfl, hbefore, hafter⟩, hhead, hlast⟩
    have hend : trimEnd (rest ++ after) = rest := by
      rw [trimEnd, List.reverse_append, dropWhile_isBlank_append (by simpa using hafter)
        (by rwa [List.head?_reverse]), List.reverse_reverse]
    cases rest with
    | nil =>
      -- All of the text is blank, so that nothing is left already at the beginning.
      have hall : (before ++ after ++ []).dropWhile isBlank = [] :=
        dropWhile_isBlank_append (List.forall_mem_append.2 ⟨hbefore, hafter⟩) (by simp)
      rw [List.append_nil] at hall
      rw [List.nil_append, trim, hall]
      rfl
    | cons c rest => rw [trim, dropWhile_isBlank_append hbefore (by simpa using hhead), hend]

/-- Nothing is left of blank characters only. -/
theorem trim_eq_nil_iff {s : List Char} : trim s = [] ↔ ∀ c ∈ s, isBlank c = true := by
  rw [trim_eq_iff]
  constructor
  · rintro ⟨⟨before, after, rfl, hbefore, hafter⟩, -, -⟩
    exact List.forall_mem_append.2 ⟨hbefore, hafter⟩
  · intro hblank
    exact ⟨⟨s, [], by simp, hblank, by simp⟩, by simp, by simp⟩

end Rollout.Text
