import Mathlib.Data.List.Destutter
import Mathlib.Data.List.Sort
import Rollout.Completeness

/-!
# What is missing is a set in listing order

The missing components are picked from the fixed order of all components, so they stand in that
order, each once, and only membership counts (`missingComponents_sublist`). Picking them agrees with
sorting the required components that stand in the way and dropping repetitions, whatever sort is
used: a list in strictly rising order is determined by its members
(`Component.destutter_eq_normalized`).

A component stands in the way less the more is chosen and the more the catalog has, and so choices
and artifacts take away from what is missing and never add to it (`missingComponents_exact`).
-/

namespace Rollout

variable {catalog : Catalog} {selection : Selection} {required : List Component} {c : Component}

/-! ## Lists in listing order -/

/-- One component is listed before another. -/
def Component.Before (c d : Component) : Prop :=
  c.rank < d.rank

instance : DecidableRel Component.Before :=
  fun c d => inferInstanceAs (Decidable (c.rank < d.rank))

instance : Trans Component.Before Component.Before Component.Before :=
  ⟨lt_trans⟩

instance : Std.Irrefl Component.Before :=
  ⟨fun c => lt_irrefl c.rank⟩

instance : Std.Antisymm Component.Before :=
  ⟨fun _ _ hcd hdc => absurd hdc hcd.asymm⟩

/-- Dropping what equals the element before it loses no element. -/
theorem mem_destutter_ne {α : Type} [DecidableEq α] {xs : List α} {x : α} :
    x ∈ xs.destutter (· ≠ ·) ↔ x ∈ xs := by
  cases xs with
  | nil => rfl
  | cons y xs =>
    rw [List.destutter_cons']
    -- The element that was kept last is the head of what is still to come.
    induction xs generalizing y with
    | nil => simp
    | cons z xs ih =>
      by_cases hyz : y = z
      · subst hyz
        rw [List.destutter'_cons_neg _ (not_not.2 rfl), ih]
        simp
      · rw [List.destutter'_cons_pos _ hyz, List.mem_cons, ih]
        exact List.mem_cons.symm

namespace Component

/-- No two components have the same place in the order. -/
theorem rank_injective : Function.Injective rank := by
  intro c d h
  cases c <;> cases d <;> first | rfl | contradiction

/-- Components that are picked from all of them stand in listing order. -/
theorem pairwise_normalized (cs : List Component) : (normalized cs).Pairwise Before :=
  List.Pairwise.filter _ (by decide)

/-- What is sorted rises strictly when repetitions are dropped. -/
theorem pairwise_destutter {cs : List Component} (h : cs.Pairwise (·.rank ≤ ·.rank)) :
    (cs.destutter (· ≠ ·)).Pairwise Before := by
  have hle : (cs.destutter (· ≠ ·)).Pairwise (·.rank ≤ ·.rank) :=
    h.sublist (List.destutter_sublist _ _)
  have hne : (cs.destutter (· ≠ ·)).IsChain (· ≠ ·) := List.isChain_destutter _ _
  -- Neighbours rise and are not the same, and components of one rank are the same.
  refine List.isChain_iff_pairwise.1 (List.isChain_iff_getElem.2 fun i hi => ?_)
  have hrank := List.isChain_iff_getElem.1 hle.isChain i hi
  exact lt_of_le_of_ne hrank (rank_injective.ne (List.isChain_iff_getElem.1 hne i hi))

/-- The components of a list, sorted and without repetitions, are picked from all of them. -/
theorem destutter_eq_normalized {cs sorted : List Component} (hperm : sorted.Perm cs)
    (hsorted : sorted.Pairwise (·.rank ≤ ·.rank)) :
    sorted.destutter (· ≠ ·) = normalized cs :=
  (pairwise_destutter hsorted).eq_of_mem_iff (pairwise_normalized cs) fun c => by
    rw [mem_destutter_ne, mem_normalized, hperm.mem_iff]

end Component

/-! ## What stands in the way -/

/-- A component stands in the way if nothing is chosen for it or the catalog has nothing for it. -/
theorem isMissing_iff :
    isMissing catalog selection c = true ↔
      selection.get? c = none ∨ catalog.artifacts c = [] := by
  simp [isMissing, Selection.contains, Catalog.hasArtifacts]

/-- A choice takes its component out of the way at most. -/
theorem isMissing_of_set {d : Component} {a : Artifact}
    (h : isMissing catalog (selection.set d a) c = true) :
    isMissing catalog selection c = true := by
  rw [isMissing_iff] at h ⊢
  refine h.imp_left fun hnone => ?_
  by_cases hd : d = c
  · subst hd
    rw [Selection.get?_set_self] at hnone
    contradiction
  · rwa [Selection.get?_set_of_ne _ _ hd] at hnone

/-- Artifacts take their component out of the way at most. -/
theorem isMissing_of_insert {d : Component} {artifacts : List Artifact} (hne : artifacts ≠ [])
    (h : isMissing (catalog.insert d artifacts) selection c = true) :
    isMissing catalog selection c = true := by
  rw [isMissing_iff] at h ⊢
  refine h.imp_right fun hnil => ?_
  unfold Catalog.artifacts at hnil ⊢
  by_cases hd : d = c
  · subst hd
    rw [Catalog.artifacts?_insert_self] at hnil
    exact absurd hnil hne
  · rwa [Catalog.artifacts?_insert_of_ne _ _ hd] at hnil

/-! ## What is missing -/

/-- If less is required and less stands in the way, less is missing. -/
theorem missingComponents_sublist {catalog' : Catalog} {selection' : Selection}
    {required' : List Component} (hrequired : required' ⊆ required)
    (hmissing : ∀ c, isMissing catalog' selection' c = true →
      isMissing catalog selection c = true) :
    (missingComponents catalog' selection' required').Sublist
      (missingComponents catalog selection required) := by
  unfold missingComponents Component.normalized
  refine List.monotone_filter_right _ fun c hc => ?_
  rw [decide_eq_true_iff, List.mem_filter] at hc ⊢
  exact ⟨hrequired hc.1, hmissing c hc.2⟩

/-- Only which components are required counts. -/
theorem missingComponents_congr {required' : List Component}
    (h : ∀ c, c ∈ required ↔ c ∈ required') :
    missingComponents catalog selection required = missingComponents catalog selection required' :=
  (missingComponents_sublist (fun c => (h c).1) fun _ => id).antisymm
    (missingComponents_sublist (fun c => (h c).2) fun _ => id)

/-- A selection is complete if no required component stands in the way. -/
theorem isComplete_iff :
    isComplete catalog selection required = true ↔
      ∀ c ∈ required, isMissing catalog selection c = false := by
  unfold isComplete
  rw [List.isEmpty_iff, List.eq_nil_iff_forall_not_mem]
  simp only [mem_missingComponents, not_and, Bool.not_eq_true]

/-- What is missing is what remains of the required components that stand in the way when they are
sorted, by whatever sort, and repetitions are dropped. It stands in strict listing order, and holds
exactly the required components for which nothing is chosen or the catalog has nothing; if there is
none, everything required is there. Both depend on which components are required alone, and neither
a choice nor artifacts for a component add to what is missing. -/
theorem missingComponents_exact (catalog : Catalog) (selection : Selection)
    (required : List Component) :
    (∀ sorted : List Component, sorted.Perm (required.filter (isMissing catalog selection)) →
      sorted.Pairwise (·.rank ≤ ·.rank) →
        missingComponents catalog selection required = sorted.destutter (· ≠ ·)) ∧
    (missingComponents catalog selection required).Pairwise Component.Before ∧
    (∀ c, c ∈ missingComponents catalog selection required ↔
      c ∈ required ∧ (selection.get? c = none ∨ catalog.artifacts c = [])) ∧
    (isComplete catalog selection required = true ↔
      ¬ ∃ c ∈ required, selection.get? c = none ∨ catalog.artifacts c = []) ∧
    (∀ required', (∀ c, c ∈ required ↔ c ∈ required') →
      missingComponents catalog selection required =
        missingComponents catalog selection required' ∧
      isComplete catalog selection required = isComplete catalog selection required') ∧
    (∀ c a, (missingComponents catalog (selection.set c a) required).Sublist
      (missingComponents catalog selection required)) ∧
    ∀ c artifacts, artifacts ≠ [] →
      (missingComponents (catalog.insert c artifacts) selection required).Sublist
        (missingComponents catalog selection required) := by
  refine ⟨fun sorted hperm hsorted => (Component.destutter_eq_normalized hperm hsorted).symm,
    Component.pairwise_normalized _, fun c => ?_, ?_, fun required' h => ?_, fun c a => ?_,
    fun c artifacts hne => ?_⟩
  · rw [mem_missingComponents, isMissing_iff]
  · simp only [isComplete_iff, ← isMissing_iff, not_exists, not_and, Bool.not_eq_true]
  · have hmissing : missingComponents catalog selection required =
        missingComponents catalog selection required' := missingComponents_congr h
    exact ⟨hmissing, congrArg List.isEmpty hmissing⟩
  · exact missingComponents_sublist (List.Subset.refl _) fun _ => isMissing_of_set
  · exact missingComponents_sublist (List.Subset.refl _) fun _ => isMissing_of_insert hne

/-- Of an engine that was chosen and has left its list empty, a proxy that is there and not chosen,
and a manager that is both, the first two are missing, in any order and however often they are
required; and a list for the engine leaves the proxy. -/
theorem missingComponents_exact_stale :
    let build : Artifact := ⟨"4.2.1", none, "a", .community, 0, .remote⟩
    let catalog := ((Catalog.empty.insert .core []).insert .proxy [build]).insert .manager [build]
    let selection := (Selection.empty.set .core build).set .manager build
    missingComponents catalog selection [.manager, .proxy, .core, .proxy] = [.core, .proxy] ∧
      missingComponents catalog selection [.manager, .proxy, .core, .proxy] =
        missingComponents catalog selection [.core, .manager, .proxy] ∧
      (missingComponents (catalog.insert .core [build]) selection [.core, .proxy]).Sublist
        (missingComponents catalog selection [.core, .proxy]) := by
  intro build catalog selection
  obtain ⟨hsorts, -, -, -, hsame, -⟩ :=
    missingComponents_exact catalog selection [.manager, .proxy, .core, .proxy]
  obtain ⟨-, -, -, -, -, -, hinsert⟩ := missingComponents_exact catalog selection [.core, .proxy]
  refine ⟨?_, (hsame _ fun c => by cases c <;> decide).1, hinsert .core [build] (by simp)⟩
  rw [hsorts [.core, .proxy, .proxy] (by decide +kernel) (by decide)]
  rfl

end Rollout
