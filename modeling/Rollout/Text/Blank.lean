/-!
# Blank characters

A character is blank if it has the Unicode property `White_Space`. `trim` removes blank characters
from both ends of a text.
-/

namespace Rollout.Text

/-- The Unicode property `White_Space`: 25 characters, from the tabulator to the ideographic
space. -/
def isBlank (c : Char) : Bool :=
  let n := c.toNat
  (9 ≤ n && n ≤ 13) || n == 0x20 || n == 0x85 || n == 0xA0 || n == 0x1680 ||
    (0x2000 ≤ n && n ≤ 0x200A) || n == 0x2028 || n == 0x2029 || n == 0x202F || n == 0x205F ||
    n == 0x3000

/-- The text without blank characters at its end. -/
def trimEnd (s : List Char) : List Char :=
  (s.reverse.dropWhile isBlank).reverse

/-- The text without blank characters at either end. -/
def trim (s : List Char) : List Char :=
  trimEnd (s.dropWhile isBlank)

/-- Text that ends in no blank character is kept as it is. -/
theorem trimEnd_concat {s : List Char} {c : Char} (h : isBlank c = false) :
    trimEnd (s ++ [c]) = s ++ [c] := by
  simp [trimEnd, h]

/-- What is left ends in no blank character. -/
theorem trimEnd_eq (s : List Char) :
    trimEnd s = [] ∨ ∃ t c, trimEnd s = t ++ [c] ∧ isBlank c = false := by
  unfold trimEnd
  cases h : s.reverse.dropWhile isBlank with
  | nil => simp
  | cons c t =>
    refine .inr ⟨t.reverse, c, by simp, ?_⟩
    have := List.head_dropWhile_not isBlank (l := s.reverse) (by simp [h])
    simpa [h] using this

/-- Trimming twice at the end is trimming once. -/
@[simp] theorem trimEnd_trimEnd (s : List Char) : trimEnd (trimEnd s) = trimEnd s := by
  rcases trimEnd_eq s with h | ⟨t, c, h, hc⟩
  · rw [h]; rfl
  · rw [h, trimEnd_concat hc]

/-- The text begins with what is left after trimming at the end. -/
theorem trimEnd_append_eq (s : List Char) :
    ∃ t, s = trimEnd s ++ t ∧ ∀ c ∈ t, isBlank c = true := by
  refine ⟨(s.reverse.takeWhile isBlank).reverse, ?_, ?_⟩
  · rw [trimEnd, ← List.reverse_append, List.takeWhile_append_dropWhile, List.reverse_reverse]
  · intro c hc
    exact List.all_eq_true.1 List.all_takeWhile c (List.mem_reverse.1 hc)

/-- Trimming at the end keeps the first character, unless nothing is left. -/
theorem dropWhile_trimEnd {s : List Char} (h : s.dropWhile isBlank = s) :
    (trimEnd s).dropWhile isBlank = trimEnd s := by
  cases hs : trimEnd s with
  | nil => rfl
  | cons c t =>
    obtain ⟨r, hr, -⟩ := trimEnd_append_eq s
    rw [hs] at hr
    rw [hr, List.cons_append, List.dropWhile_cons] at h
    split at h
    · have := congrArg List.length h
      have hle := (List.dropWhile_sublist isBlank (l := t ++ r)).length_le
      simp only [List.length_cons] at this
      omega
    · next hc => simp [hc]

/-- Trimming twice is trimming once. -/
@[simp] theorem trim_trim (s : List Char) : trim (trim s) = trim s := by
  have h : (s.dropWhile isBlank).dropWhile isBlank = s.dropWhile isBlank := by
    induction s with
    | nil => rfl
    | cons c s ih => by_cases hc : isBlank c <;> simp [hc, ih]
  rw [trim, trim, dropWhile_trimEnd h, trimEnd_trimEnd]

end Rollout.Text
