import Mathlib.Algebra.BigOperators.Group.Finset.Basic
import Mathlib.Algebra.GroupWithZero.Nat
import Mathlib.Algebra.Order.BigOperators.Group.Finset
import Rollout.Session

/-!
# The size of a selection is an exact sum

Numbers that are added one after another, each sum at most the largest number, give the exact sum or
the largest number (`toNat_foldl_saturatingAdd`). What counts is the set of the active components,
because the fixed order of all components is gone through and not the list of them. So the size is
that of one sum over a finite set (`toNat_totalSize`), and order, repetition, additional components
and disjoint sets are facts about such sums.
-/

namespace Rollout

variable {selection : Selection} {active active' : List Component}

/-- The size of what is chosen for a component. -/
def chosenSize (selection : Selection) (c : Component) : Nat :=
  (selection.get? c).elim 0 (·.size.toNat)

/-- The sizes of what is chosen for the active components, each counted once, in sum. -/
def exactSize (selection : Selection) (active : List Component) : Nat :=
  ∑ c ∈ active.toFinset, chosenSize selection c

/-! ## Sums of at most the largest number -/

/-- The sum of two numbers, or the largest number. -/
theorem toNat_saturatingAdd (a b : UInt64) :
    (saturatingAdd a b).toNat = min (2 ^ 64 - 1) (a.toNat + b.toNat) := by
  unfold saturatingAdd UInt64.size
  split
  · next hfits => rw [UInt64.toNat_add, Nat.mod_eq_of_lt hfits, Nat.min_eq_right (by omega)]
  · next hover =>
    rw [Nat.min_eq_left (by omega)]
    rfl

/-- Added to a number one after another, the sizes give their sum with it, or the largest number. -/
theorem toNat_foldl_saturatingAdd (artifacts : List Artifact) (total : UInt64) :
    (artifacts.foldl (fun total a => saturatingAdd total a.size) total).toNat =
      min (2 ^ 64 - 1) (total.toNat + (artifacts.map (·.size.toNat)).sum) := by
  induction artifacts generalizing total with
  | nil =>
    have hlt : total.toNat < 2 ^ 64 := total.toNat_lt
    show total.toNat = min (2 ^ 64 - 1) (total.toNat + 0)
    omega
  | cons a artifacts ih =>
    rw [List.foldl_cons, ih, toNat_saturatingAdd, List.map_cons, List.sum_cons]
    -- Once the largest number is reached, no further size changes it.
    omega

/-- What is chosen for some components has the sizes of what is chosen for each of them. -/
theorem sum_map_filterMap_get? (cs : List Component) :
    ((cs.filterMap selection.get?).map (·.size.toNat)).sum =
      (cs.map (chosenSize selection)).sum := by
  induction cs with
  | nil => rfl
  | cons c cs ih =>
    rw [List.filterMap_cons, List.map_cons, List.sum_cons, ← ih, chosenSize]
    cases selection.get? c with
    | none => exact (Nat.zero_add _).symm
    | some a => rfl

/-- Each active component stands once among the normalized ones. -/
theorem Component.nodup_normalized (cs : List Component) : (normalized cs).Nodup :=
  List.Nodup.filter _ (by decide)

/-- Only which components are active counts. -/
theorem exactSize_congr (h : ∀ c, c ∈ active ↔ c ∈ active') :
    exactSize selection active = exactSize selection active' := by
  have hset : active.toFinset = active'.toFinset := by
    ext c
    simp [h c]
  rw [exactSize, exactSize, hset]

/-- The size is the exact one, or the largest number. -/
theorem toNat_totalSize (selection : Selection) (active : List Component) :
    (totalSize selection active).toNat = min (2 ^ 64 - 1) (exactSize selection active) := by
  have hsum : ((Component.normalized active).map (chosenSize selection)).sum =
      exactSize selection active := by
    rw [← List.sum_toFinset _ (Component.nodup_normalized active)]
    exact exactSize_congr fun _ => Component.mem_normalized
  unfold totalSize
  rw [toNat_foldl_saturatingAdd, sum_map_filterMap_get?, hsum, UInt64.toNat_zero, Nat.zero_add]

/-! ## What the active components contribute -/

/-- The size depends on which components are active, not on their order or number. -/
theorem totalSize_congr (h : ∀ c, c ∈ active ↔ c ∈ active') :
    totalSize selection active = totalSize selection active' := by
  rw [← UInt64.toNat_inj, toNat_totalSize, toNat_totalSize, exactSize_congr h]

/-- Further components take nothing away. -/
theorem totalSize_mono (h : active ⊆ active') :
    totalSize selection active ≤ totalSize selection active' := by
  have hsubset : active.toFinset ⊆ active'.toFinset := fun c hc =>
    List.mem_toFinset.2 (h (List.mem_toFinset.1 hc))
  have hexact : exactSize selection active ≤ exactSize selection active' :=
    Finset.sum_le_sum_of_subset hsubset
  rw [UInt64.le_iff_toNat_le, toNat_totalSize, toNat_totalSize]
  exact min_le_min_left _ hexact

/-- Different components add their sizes. -/
theorem exactSize_append (h : active.Disjoint active') :
    exactSize selection (active ++ active') =
      exactSize selection active + exactSize selection active' := by
  rw [exactSize, List.toFinset_append,
    Finset.sum_union (List.disjoint_toFinset_iff_disjoint.2 h)]
  rfl

/-- The size of a selection is the sum of the sizes of what is chosen for the different active
components, or the largest number of 64 bits if that is smaller. So neither order nor repetition
counts, and a session that is given the components has the same size; further components take
nothing away; and the sizes of lists without a common component add up, if their sum fits. -/
theorem totalSize_exact (selection : Selection) (active : List Component) :
    (totalSize selection active).toNat = min (2 ^ 64 - 1) (exactSize selection active) ∧
    (∀ active', (∀ c, c ∈ active ↔ c ∈ active') →
      totalSize selection active = totalSize selection active') ∧
    (∀ s : Session, totalSize selection (s.setActive active).active = totalSize selection active ∧
      (s.setActive active).size = totalSize s.selection active) ∧
    (∀ active', active ⊆ active' → totalSize selection active ≤ totalSize selection active') ∧
    ∀ active', active.Disjoint active' → exactSize selection (active ++ active') < 2 ^ 64 →
      (totalSize selection (active ++ active')).toNat =
        (totalSize selection active).toNat + (totalSize selection active').toNat := by
  have hnormalized : ∀ selection, totalSize selection (Component.normalized active) =
      totalSize selection active :=
    fun _ => totalSize_congr fun _ => Component.mem_normalized
  refine ⟨toNat_totalSize selection active, fun _ h => totalSize_congr h,
    fun s => ⟨hnormalized selection, hnormalized s.selection⟩, fun _ h => totalSize_mono h, ?_⟩
  intro active' hdisjoint hfits
  rw [exactSize_append hdisjoint] at hfits
  rw [toNat_totalSize, toNat_totalSize, toNat_totalSize, exactSize_append hdisjoint]
  omega

/-- An engine that leaves room for seven bytes, a proxy of seven bytes, and a larger agent. -/
def heavySelection : Selection :=
  let sized (size : UInt64) : Artifact := ⟨"4.2.1", none, "a", .community, size, .remote⟩
  ((Selection.empty.set .core (sized 18446744073709551608)).set .proxy (sized 7)).set .agent
    (sized 300)

/-- Engine and proxy together just fit, in any order and however often they are listed; with the
agent the sum is too large and stays where it is. -/
theorem totalSize_exact_heavy :
    totalSize heavySelection [.core, .proxy] = totalSize heavySelection [.proxy, .core, .proxy] ∧
      (totalSize heavySelection [.core, .proxy]).toNat =
        (totalSize heavySelection [.core]).toNat + (totalSize heavySelection [.proxy]).toNat ∧
      totalSize heavySelection [.core, .proxy] ≤
        totalSize heavySelection [.agent, .core, .console, .proxy] ∧
      exactSize heavySelection [.agent, .core, .console, .proxy] = 2 ^ 64 + 299 ∧
      (totalSize heavySelection [.agent, .core, .console, .proxy]).toNat = 2 ^ 64 - 1 := by
  obtain ⟨-, hsame, -, hmore, -⟩ := totalSize_exact heavySelection [.core, .proxy]
  obtain ⟨-, -, -, -, hadd⟩ := totalSize_exact heavySelection [.core]
  obtain ⟨hexact, -⟩ := totalSize_exact heavySelection [.agent, .core, .console, .proxy]
  have hsum : exactSize heavySelection [.agent, .core, .console, .proxy] = 2 ^ 64 + 299 := by
    decide +kernel
  refine ⟨hsame _ fun c => by cases c <;> decide, hadd [.proxy] (by simp) (by decide +kernel),
    hmore _ (by decide), hsum, ?_⟩
  rw [hexact, hsum]
  rfl

end Rollout
