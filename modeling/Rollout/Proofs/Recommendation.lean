import Rollout.Proofs.Text.Split
import Rollout.Recommendation

/-!
# What is recommended

A recommended artifact is one of the catalog's, and every component with artifacts has one
(`mem_of_recommend`, `recommend_eq_none_iff`). It is the first one, unless a line is preferred that
has at least two engines. Then it is the first of highest release among these: going through them
leaves behind what is lower and passes over what is not higher (`isFirstHighest_highestRelease`),
and what is not on the line does not matter (`IsFirstHighest.isHighestOnLine`).
-/

namespace Rollout

/-- The artifact with the highest release is one of those that are compared. -/
theorem highestRelease_mem (first : Artifact) (rest : List Artifact) :
    highestRelease first rest ∈ first :: rest := by
  induction rest generalizing first with
  | nil => exact List.mem_cons_self
  | cons a rest ih =>
    show highestRelease (if hasHigherRelease a first then a else first) rest ∈ _
    split
    · exact List.mem_cons_of_mem _ (ih a)
    · rcases List.mem_cons.1 (ih first) with h | h
      · rw [h]
        exact List.mem_cons_self
      · exact List.mem_cons_of_mem _ (List.mem_cons_of_mem _ h)

/-- The first artifact is recommended, unless it is for the engine and a preferred line has at
least two. -/
theorem recommend_cases (catalog : Catalog) (line : Option StableLine) (c : Component) :
    recommend catalog line c = (catalog.artifacts c).head? ∨
      ∃ preferred first second rest, c = .core ∧ line = some preferred ∧
        (catalog.artifacts c).filter (fun a => preferred.covers a.version) =
          first :: second :: rest ∧
        recommend catalog line c = some (highestRelease first (second :: rest)) := by
  unfold recommend
  split
  · next preferred =>
    -- The component is the engine and a line is preferred, so the number of its engines decides.
    dsimp only
    split
    · next first second rest hline =>
      exact .inr ⟨preferred, first, second, rest, rfl, rfl, hline, rfl⟩
    · exact .inl rfl
  · exact .inl rfl

/-- What is recommended is in the catalog. -/
theorem mem_of_recommend {catalog : Catalog} {line : Option StableLine} {c : Component}
    {a : Artifact} (h : recommend catalog line c = some a) : a ∈ catalog.artifacts c := by
  rcases recommend_cases catalog line c with
    hfirst | ⟨preferred, first, second, rest, -, -, hline, hbest⟩
  · exact List.mem_of_head? (hfirst ▸ h)
  · rw [hbest, Option.some.injEq] at h
    have hmem := highestRelease_mem first (second :: rest)
    rw [h, ← hline] at hmem
    exact (List.mem_filter.1 hmem).1

/-- Nothing is recommended exactly if there is nothing. -/
theorem recommend_eq_none_iff {catalog : Catalog} {line : Option StableLine} {c : Component} :
    recommend catalog line c = none ↔ catalog.artifacts c = [] := by
  rcases recommend_cases catalog line c with
    hfirst | ⟨preferred, first, second, rest, -, -, hline, hbest⟩
  · rw [hfirst, List.head?_eq_none_iff]
  · rw [hbest]
    refine ⟨fun h => absurd h (by simp), fun h => ?_⟩
    rw [h] at hline
    simp at hline

/-! ## The highest release -/

/-- Where the release of an artifact stands among others: its leading number, above the place of
those that have none. -/
def releaseRank (a : Artifact) : Nat :=
  a.leadingRelease?.elim 0 (· + 1)

/-- Ranks are ordered like the leading numbers, where a missing one is least. -/
theorem releaseRank_lt_iff {a b : Artifact} :
    releaseRank a < releaseRank b ↔ a.leadingRelease? < b.leadingRelease? := by
  unfold releaseRank
  cases a.leadingRelease? <;> cases b.leadingRelease? <;> simp

/-- So they are if they may be the same. -/
theorem releaseRank_le_iff {a b : Artifact} :
    releaseRank a ≤ releaseRank b ↔ a.leadingRelease? ≤ b.leadingRelease? := by
  unfold releaseRank
  cases a.leadingRelease? <;> cases b.leadingRelease? <;> simp

/-- The comparison of releases is that of the ranks. -/
theorem hasHigherRelease_iff {a b : Artifact} :
    hasHigherRelease a b = true ↔ releaseRank b < releaseRank a := by
  unfold hasHigherRelease releaseRank
  cases a.leadingRelease? <;> cases b.leadingRelease? <;> simp

/-- The artifact stands highest in the list, above those before it and not below those after it. -/
def IsFirstHighest (artifacts : List Artifact) (best : Artifact) : Prop :=
  ∃ before after, artifacts = before ++ best :: after ∧
    (∀ a ∈ before, releaseRank a < releaseRank best) ∧
    ∀ a ∈ after, releaseRank a ≤ releaseRank best

/-- Nothing in the list stands above the first highest. -/
theorem IsFirstHighest.releaseRank_le {artifacts : List Artifact} {best a : Artifact}
    (h : IsFirstHighest artifacts best) (ha : a ∈ artifacts) :
    releaseRank a ≤ releaseRank best := by
  obtain ⟨before, after, rfl, hbefore, hafter⟩ := h
  rcases List.mem_append.1 ha with ha | ha
  · exact Nat.le_of_lt (hbefore a ha)
  · rcases List.mem_cons.1 ha with rfl | ha
    · exact Nat.le_refl _
    · exact hafter a ha

/-- Of several artifacts the one that is found is the first of highest release. -/
theorem isFirstHighest_highestRelease (first : Artifact) (rest : List Artifact) :
    IsFirstHighest (first :: rest) (highestRelease first rest) := by
  induction rest generalizing first with
  | nil => exact ⟨[], [], rfl, by simp, by simp⟩
  | cons a rest ih =>
    show IsFirstHighest _ (highestRelease (if hasHigherRelease a first then a else first) rest)
    by_cases hhigher : hasHigherRelease a first = true
    · -- The first one is left behind, below what is found among the others.
      rw [if_pos hhigher]
      have hfirst : releaseRank first < releaseRank (highestRelease a rest) :=
        Nat.lt_of_lt_of_le (hasHigherRelease_iff.1 hhigher)
          ((ih a).releaseRank_le List.mem_cons_self)
      obtain ⟨before, after, heq, hbefore, hafter⟩ := ih a
      exact ⟨first :: before, after, by rw [heq, List.cons_append],
        List.forall_mem_cons.2 ⟨hfirst, hbefore⟩, hafter⟩
    · -- The second one is passed over, and stands where the first one does or lower.
      rw [if_neg hhigher]
      have hsecond : releaseRank a ≤ releaseRank first :=
        Nat.le_of_not_lt fun hlt => hhigher (hasHigherRelease_iff.2 hlt)
      obtain ⟨before, after, heq, hbefore, hafter⟩ := ih first
      cases before with
      | nil =>
        obtain ⟨hbest, rfl⟩ := List.cons.inj heq
        rw [← hbest] at hafter ⊢
        exact ⟨[], a :: rest, rfl, by simp, List.forall_mem_cons.2 ⟨hsecond, hafter⟩⟩
      | cons first' before =>
        obtain ⟨rfl, hrest⟩ := List.cons.inj heq
        obtain ⟨hfirst, hbefore⟩ := List.forall_mem_cons.1 hbefore
        refine ⟨first :: a :: before, after, ?_, ?_, hafter⟩
        · exact congrArg (fun others => first :: a :: others) hrest
        · exact List.forall_mem_cons.2 ⟨hfirst, List.forall_mem_cons.2
            ⟨Nat.lt_of_le_of_lt hsecond hfirst, hbefore⟩⟩

/-- The leading release is the number before the first dot, blank characters around it aside. -/
theorem Artifact.leadingRelease?_eq (a : Artifact) :
    a.leadingRelease? = a.release.bind fun release =>
      Text.unsigned? UInt64.size (Text.trim (release.toList.takeWhile (· ≠ '.'))) := by
  unfold leadingRelease?
  simp only [Option.bind_eq_bind, Text.head?_splitOn, Option.bind_some]

/-! ## The engine of a line -/

/-- The first three segments of the version are those of the line. -/
def OnLine (line : StableLine) (version : String) : Prop :=
  (Version.segments version).take 3 = Version.segments line.text

instance (line : StableLine) (version : String) : Decidable (OnLine line version) :=
  inferInstanceAs (Decidable (_ = _))

/-- A version is covered by a line if it is on it. -/
theorem StableLine.covers_iff {line : StableLine} {version : String} :
    line.covers version = true ↔ OnLine line version := by
  unfold covers OnLine
  rw [List.isPrefixOf_iff_prefix, List.prefix_iff_eq_take, line.length_segments]
  exact eq_comm

/-- Of the artifacts on a line this one has the highest leading release, higher than those before
it, where a release without a leading number is lower than any. -/
def IsHighestOnLine (line : StableLine) (artifacts : List Artifact) (best : Artifact) : Prop :=
  ∃ before after, artifacts = before ++ best :: after ∧ OnLine line best.version ∧
    (∀ a ∈ before, OnLine line a.version → a.leadingRelease? < best.leadingRelease?) ∧
    ∀ a ∈ after, OnLine line a.version → a.leadingRelease? ≤ best.leadingRelease?

/-- The first highest of the artifacts on a line is so in the whole list. -/
theorem IsFirstHighest.isHighestOnLine {line : StableLine} {artifacts : List Artifact}
    {best : Artifact}
    (h : IsFirstHighest (artifacts.filter fun a => line.covers a.version) best) :
    IsHighestOnLine line artifacts best := by
  obtain ⟨lower, rest, heq, hlower, hrest⟩ := h
  -- What is left out of the list is not on the line.
  obtain ⟨before, tail, rfl, hbefore, htail⟩ := List.filter_eq_append_iff.1 heq
  obtain ⟨others, after, rfl, hothers, hbest, hafter⟩ := List.filter_eq_cons_iff.1 htail
  refine ⟨before ++ others, after, (List.append_assoc ..).symm, StableLine.covers_iff.1 hbest,
    fun a ha honline => ?_, fun a ha honline => ?_⟩
  · have hcovers := StableLine.covers_iff.2 honline
    rcases List.mem_append.1 ha with ha | ha
    · refine releaseRank_lt_iff.1 (hlower a ?_)
      rw [← hbefore]
      exact List.mem_filter.2 ⟨ha, hcovers⟩
    · exact absurd hcovers (hothers a ha)
  · refine releaseRank_le_iff.1 (hrest a ?_)
    rw [← hafter]
    exact List.mem_filter.2 ⟨ha, StableLine.covers_iff.2 honline⟩

/-- The first engine is recommended as long as a preferred line has fewer than two. -/
theorem recommend_core_of_few {catalog : Catalog} {line : Option StableLine}
    (h : ∀ preferred, line = some preferred →
      ((catalog.artifacts .core).filter fun a => preferred.covers a.version).length < 2) :
    recommend catalog line .core = (catalog.artifacts .core).head? := by
  rcases recommend_cases catalog line .core with
    hfirst | ⟨preferred, first, second, rest, -, hline, honline, -⟩
  · exact hfirst
  · -- With two engines on the line there are not fewer than two.
    have hfew := h preferred hline
    rw [honline, List.length_cons, List.length_cons] at hfew
    omega

/-- With two engines or more on the preferred line the first of highest release is recommended. -/
theorem recommend_core_of_many {catalog : Catalog} {preferred : StableLine}
    (h : 2 ≤ ((catalog.artifacts .core).filter fun a => preferred.covers a.version).length) :
    ∃ best, recommend catalog (some preferred) .core = some best ∧
      IsHighestOnLine preferred (catalog.artifacts .core) best := by
  match honline : (catalog.artifacts .core).filter fun a => preferred.covers a.version with
  | [] | [_] => simp [honline] at h
  | first :: second :: rest =>
    refine ⟨highestRelease first (second :: rest), ?_, ?_⟩
    · unfold recommend
      simp only [honline]
    · have hhighest := isFirstHighest_highestRelease first (second :: rest)
      rw [← honline] at hhighest
      exact hhighest.isHighestOnLine

/-- The recommended engine is none if there is none, the first if no line is preferred or fewer than
two engines are on it, and else the first of highest leading release on the line, where that release
is the number before the first dot and none is lower than any. For every other component the first
artifact is recommended, whatever line is preferred. -/
theorem recommend_spec (catalog : Catalog) (line : Option StableLine) :
    (recommend catalog line .core = none ↔
      catalog.artifacts? .core = none ∨ catalog.artifacts? .core = some []) ∧
    ((∀ preferred, line = some preferred →
        (catalog.artifacts .core).countP (fun a => OnLine preferred a.version) < 2) →
      recommend catalog line .core = (catalog.artifacts .core).head?) ∧
    (∀ preferred, line = some preferred →
      2 ≤ (catalog.artifacts .core).countP (fun a => OnLine preferred a.version) →
      ∃ best, recommend catalog line .core = some best ∧
        IsHighestOnLine preferred (catalog.artifacts .core) best) ∧
    (∀ a : Artifact, a.leadingRelease? = a.release.bind fun release =>
      Text.unsigned? UInt64.size (Text.trim (release.toList.takeWhile (· ≠ '.')))) ∧
    ∀ c, c ≠ .core → recommend catalog line c = (catalog.artifacts c).head? := by
  -- An engine is counted if the line covers its version.
  have hcount : ∀ preferred : StableLine,
      (catalog.artifacts .core).countP (fun a => OnLine preferred a.version) =
        ((catalog.artifacts .core).filter fun a => preferred.covers a.version).length := by
    intro preferred
    rw [← List.countP_eq_length_filter]
    refine List.countP_congr fun a _ => ?_
    rw [decide_eq_true_eq, StableLine.covers_iff]
  refine ⟨?_, fun hfew => recommend_core_of_few fun preferred hline => ?_,
    fun preferred hline hmany => ?_, Artifact.leadingRelease?_eq, fun c hc => ?_⟩
  · rw [recommend_eq_none_iff]
    unfold Catalog.artifacts
    cases catalog.artifacts? .core <;> simp
  · rw [← hcount]
    exact hfew preferred hline
  · rw [hcount] at hmany
    rw [hline]
    exact recommend_core_of_many hmany
  · rcases recommend_cases catalog line c with hfirst | ⟨_, _, _, _, hcore, -⟩
    · exact hfirst
    · exact absurd hcore hc

end Rollout
