import Rollout.Proofs.Text.Numeral
import Rollout.Proofs.Text.Split
import Rollout.Render

/-!
# Old engines are told by one digit

An engine is too old for the optional components if the first character of its version is a digit
below the configured major version. Where the version begins with a number, that digit is the first
of the number's digits, and the number is compared only as far as its first digit goes
(`isLowVersion_iff_leadingDigit`). A number of one digit is its first digit. A longer one is above
it, so an engine below the configured version is always taken for old, and an engine that is not is
taken for old if its first digit alone is below (`isLowVersion_exact`).

The verdict reaches people as a line of the summary that no other line of it can be mistaken for
(`Summary.lowWarning_mem_lines`).
-/

namespace Rollout

/-! ## The first digit -/

/-- The first digit of a number that is written with so many digits. -/
def leadingDigit (digits major : Nat) : Nat :=
  major / 10 ^ (digits - 1)

/-- The first digit is no more than the number. -/
theorem leadingDigit_le (digits major : Nat) : leadingDigit digits major ≤ major :=
  Nat.div_le_self _ _

/-- A number of one digit is its first digit. -/
@[simp] theorem leadingDigit_one (major : Nat) : leadingDigit 1 major = major :=
  Nat.div_one major

/-- The first digit is one digit. -/
theorem leadingDigit_lt {digits : List Char} {major : Nat}
    (hmajor : Text.digits? digits = some major) : leadingDigit digits.length major < 10 := by
  cases digits with
  | nil => contradiction
  | cons c rest => exact Text.digit?_lt (Text.digits?_cons_eq_some hmajor)

/-- The first character of a version that begins with a number is the number's first digit. -/
theorem Artifact.majorDigit?_of_digits {a : Artifact} {digits : List Char} {major : Nat}
    (hfirst : (Version.segments a.version).head? = some digits)
    (hmajor : Text.digits? digits = some major) :
    a.majorDigit? = some (leadingDigit digits.length major) := by
  rw [Version.segments, Text.head?_splitOn] at hfirst
  cases digits with
  | nil => contradiction
  | cons c rest =>
    -- The first segment is not empty, so it begins with the version's first character.
    have hchar : a.versionChar? 0 = some c := by
      unfold versionChar?
      cases hversion : a.version.toList with
      | nil => simp [hversion] at hfirst
      | cons d cs =>
        have hhead : d = c := by
          rw [hversion, List.takeWhile_cons] at hfirst
          split at hfirst
          · exact (List.cons.inj (Option.some.inj hfirst)).1
          · simp at hfirst
        rw [hhead, List.getElem?_cons_zero]
    rw [majorDigit?, hchar, Option.bind_some, Text.digits?_cons_eq_some hmajor]
    rfl

/-- An engine whose version begins with a number is too old exactly if the number's first digit is
below the configured major version. -/
theorem Session.isLowVersion_iff_leadingDigit {s : Session} {core : Artifact} {digits : List Char}
    {major : Nat} (hcore : s.selection.get? .core = some core)
    (hfirst : (Version.segments core.version).head? = some digits)
    (hmajor : Text.digits? digits = some major) :
    s.isLowVersion = true ↔
      leadingDigit digits.length major < s.policy.lowVersionMajor.toNat := by
  unfold isLowVersion
  rw [hcore, Option.bind_some, Artifact.majorDigit?_of_digits hfirst hmajor]
  exact decide_eq_true_iff

/-! ## The warning -/

/-- Text that is added leaves the first characters as they are. -/
theorem take_toList_append {s : String} {n : Nat} (t : String) (h : n ≤ s.toList.length) :
    (s ++ t).toList.take n = s.toList.take n := by
  rw [String.toList_append, List.take_append_of_le_length h]

/-- What is in a list with separators is in a separator or in one of its parts. -/
theorem mem_intercalate {α : Type} {x : α} {sep : List α} {xss : List (List α)}
    (h : x ∈ sep.intercalate xss) : x ∈ sep ∨ ∃ xs ∈ xss, x ∈ xs := by
  induction xss with
  | nil => contradiction
  | cons xs xss ih =>
    cases xss with
    | nil => exact .inr ⟨xs, List.mem_cons_self, by simpa using h⟩
    | cons ys xss =>
      rw [List.intercalate_cons_cons, List.append_assoc, List.mem_append, List.mem_append] at h
      rcases h with h | h | h
      · exact .inr ⟨xs, List.mem_cons_self, h⟩
      · exact .inl h
      · exact (ih h).imp_right fun ⟨zs, hzs, hx⟩ => ⟨zs, List.mem_cons_of_mem _ hzs, hx⟩

namespace Table

/-- The characters with which a line of a table begins. -/
def borders : List Char :=
  ['┌', '│', '╞', '├', '└']

/-- The text begins with a border. -/
def IsBordered (line : String) : Prop :=
  ∃ c ∈ borders, line.toList.take 1 = [c]

/-- A rule begins with the border on its left. -/
theorem isBordered_rule {left line cross right : String} {widths : List Nat}
    (h : ∃ c ∈ borders, left = String.singleton c) :
    IsBordered (rule left line cross right widths) := by
  obtain ⟨c, hc, rfl⟩ := h
  refine ⟨c, hc, ?_⟩
  rw [rule, String.append_assoc, take_toList_append _ (by simp)]
  simp

/-- A line of a row begins with the border of its first cell. -/
theorem isBordered_of_mem_rowLines {widths : List Nat} {row : List String} {line : String}
    (h : line ∈ rowLines widths row) : IsBordered line := by
  obtain ⟨i, -, rfl⟩ := List.mem_map.1 h
  refine ⟨'│', by decide, ?_⟩
  rw [String.append_assoc, take_toList_append _ (by decide)]
  rfl

/-- Every line of a table begins with a border. -/
theorem isBordered_of_mem_lines {t : Table} {line : String} (h : line ∈ t.lines) :
    IsBordered line := by
  simp only [lines, List.mem_append, List.mem_singleton] at h
  rcases h with (((rfl | h) | rfl) | h) | rfl
  · exact isBordered_rule ⟨'┌', by decide, rfl⟩
  · exact isBordered_of_mem_rowLines h
  · exact isBordered_rule ⟨'╞', by decide, rfl⟩
  · rcases mem_intercalate h with h | ⟨row, hrow, h⟩
    · obtain rfl := List.mem_singleton.1 h
      exact isBordered_rule ⟨'├', by decide, rfl⟩
    · obtain ⟨cells, -, rfl⟩ := List.mem_map.1 hrow
      exact isBordered_of_mem_rowLines h
  · exact isBordered_rule ⟨'└', by decide, rfl⟩

end Table

namespace Summary

/-- The line that warns of an engine that is too old. -/
def lowWarning (colored : Bool) : String :=
  Paint.apply [.yellow] colored ("The selected core predates the optional components; " ++
    "agent and console are unavailable.")

/-- The characters with which the warning begins; they tell it from every other line. -/
def lowOpening (colored : Bool) : List Char :=
  if colored then ['\x1b', '[', '3', '3'] else ['T', 'h', 'e', ' ']

/-- The warning begins with its first four characters. -/
theorem take_lowWarning (colored : Bool) :
    (lowWarning colored).toList.take 4 = lowOpening colored := by
  cases colored <;> decide +kernel

/-- The warning is no line of a table. -/
theorem not_isBordered_lowWarning (colored : Bool) : ¬ Table.IsBordered (lowWarning colored) := by
  rintro ⟨c, hc, hline⟩
  have hfirst : (lowOpening colored).take 1 = [c] := by
    rw [← take_lowWarning, List.take_take]
    exact hline
  cases colored with
  | false =>
    obtain rfl : 'T' = c := (List.cons.inj hfirst).1
    exact absurd hc (by decide)
  | true =>
    obtain rfl : '\x1b' = c := (List.cons.inj hfirst).1
    exact absurd hc (by decide)

/-- A line that begins in another way is not the warning. -/
theorem lowWarning_ne_append {colored : Bool} {s : String} (t : String)
    (hlength : 4 ≤ s.toList.length) (hne : lowOpening colored ≠ s.toList.take 4) :
    lowWarning colored ≠ s ++ t :=
  fun h => hne (by rw [← take_lowWarning, h, take_toList_append t hlength])

/-- The verdict does not warn of the engine. -/
theorem lowWarning_notMem_verdict (summary : Summary) (colored : Bool) :
    lowWarning colored ∉ summary.verdict colored := by
  unfold verdict
  split
  · cases colored <;> decide +kernel
  · -- Otherwise the first line names what is missing, and each other line is a finding.
    intro h
    rcases List.mem_cons.1 h with h | h
    · revert h
      cases colored with
      | false => exact lowWarning_ne_append _ (by decide) (by decide)
      | true =>
        rw [Paint.apply, if_pos rfl, String.append_assoc]
        exact lowWarning_ne_append _ (by decide) (by decide)
    · obtain ⟨f, -, h⟩ := List.mem_map.1 h
      rw [String.append_assoc, String.append_assoc] at h
      exact lowWarning_ne_append _ (by decide) (by cases colored <;> decide) h.symm

/-- A summary warns of the engine exactly if it is too old. -/
theorem lowWarning_mem_lines {summary : Summary} {colored : Bool} :
    lowWarning colored ∈ summary.lines colored ↔ summary.lowVersion = true := by
  -- No other line is the warning: not those of the table, the two below it and the verdict.
  have htable : lowWarning colored ∉ summary.table.lines := fun h =>
    not_isBordered_lowWarning colored (Table.isBordered_of_mem_lines h)
  have hflow : lowWarning colored ≠ "Flow:           " ++ summary.flow.name :=
    lowWarning_ne_append _ (by decide) (by cases colored <;> decide)
  have hsize : lowWarning colored ≠ "Estimated size: " ++ mebibytes summary.size :=
    lowWarning_ne_append _ (by decide) (by cases colored <;> decide)
  have hverdict := lowWarning_notMem_verdict summary colored
  unfold lines
  rw [← lowWarning]
  cases summary.lowVersion with
  | false => simp [htable, hflow, hsize, hverdict]
  | true => simp

end Summary

/-! ## The verdict -/

/-- Of an engine whose version begins with a number, the first digit of that number decides: the
engine is too old exactly if this digit is below the configured major version. So an engine that is
below it is too old, and the two agree unless the first digit is below it and the number is not; in
particular they agree on numbers of one digit. From ten on every such engine is too old. The summary
says so exactly if it is, and so does its line for people. -/
theorem Session.isLowVersion_exact (s : Session) (core : Artifact) (digits : List Char)
    (major : Nat) (hcore : s.selection.get? .core = some core)
    (hfirst : (Version.segments core.version).head? = some digits)
    (hmajor : Text.digits? digits = some major) :
    (s.isLowVersion = true ↔
      leadingDigit digits.length major < s.policy.lowVersionMajor.toNat) ∧
    (major < s.policy.lowVersionMajor.toNat → s.isLowVersion = true) ∧
    ((s.isLowVersion = true ↔ major < s.policy.lowVersionMajor.toNat) ↔
      ¬ (leadingDigit digits.length major < s.policy.lowVersionMajor.toNat ∧
        s.policy.lowVersionMajor.toNat ≤ major)) ∧
    (digits.length = 1 → (s.isLowVersion = true ↔ major < s.policy.lowVersionMajor.toNat)) ∧
    (10 ≤ s.policy.lowVersionMajor.toNat → s.isLowVersion = true) ∧
    ∀ ignored colored, (s.summary ignored).lowVersion = s.isLowVersion ∧
      (Summary.lowWarning colored ∈ (s.summary ignored).lines colored ↔
        s.isLowVersion = true) := by
  have hdigit := isLowVersion_iff_leadingDigit hcore hfirst hmajor
  have hle := leadingDigit_le digits.length major
  have hten := leadingDigit_lt hmajor
  refine ⟨hdigit, fun h => ?_, ?_, fun hone => ?_, fun h => ?_, fun ignored colored => ⟨rfl, ?_⟩⟩
  · exact hdigit.2 (Nat.lt_of_le_of_lt hle h)
  · rw [hdigit]
    omega
  · rw [hdigit, hone, leadingDigit_one]
  · exact hdigit.2 (Nat.lt_of_lt_of_le hten h)
  · exact Summary.lowWarning_mem_lines

/-- A session with an engine of the twelfth major version. -/
def twelfthSession (lowVersionMajor : UInt32) : Session :=
  (Session.start (Catalog.empty.insert .core [⟨"12.0.0", none, "a", .community, 0, .remote⟩])
    .install ⟨none, lowVersionMajor⟩).1

/-- Below the twentieth major version it is too old, as its number says. -/
theorem Session.isLowVersion_exact_twelfth :
    (twelfthSession 20).isLowVersion = true ∧
      ((twelfthSession 20).isLowVersion = true ↔
        12 < (twelfthSession 20).policy.lowVersionMajor.toNat) ∧
      Summary.lowWarning true ∈ ((twelfthSession 20).summary []).lines true := by
  obtain ⟨-, hlow, hagrees, -, -, hwarns⟩ := isLowVersion_exact (twelfthSession 20)
    ⟨"12.0.0", none, "a", .community, 0, .remote⟩ ['1', '2'] 12 (by decide +kernel)
    (by decide +kernel) (by decide +kernel)
  have htrue := hlow (by decide +kernel)
  exact ⟨htrue, hagrees.2 (by decide +kernel), (hwarns [] true).2.2 htrue⟩

/-- Below the fourth major version it is not, and is taken for too old for its first digit. -/
theorem Session.isLowVersion_of_first_digit :
    ∃ core, (twelfthSession 4).selection.get? .core = some core ∧
      (Version.segments core.version).head? = some ['1', '2'] ∧
      Text.digits? ['1', '2'] = some 12 ∧
      (twelfthSession 4).policy.lowVersionMajor.toNat = 4 ∧
      ¬ ((twelfthSession 4).isLowVersion = true ↔ 12 < 4) := by
  refine ⟨⟨"12.0.0", none, "a", .community, 0, .remote⟩, ?_, ?_, ?_, ?_, ?_⟩ <;> decide +kernel

end Rollout
