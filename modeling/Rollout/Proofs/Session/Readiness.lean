import Rollout.Proofs.Recommendation
import Rollout.Proofs.Session.Run
import Rollout.Report

/-!
# Readiness depends on the catalog alone

In every state that a session reaches, an artifact is chosen for exactly the components that have
one in the catalog (`Selection.DrawsFrom`). So what is missing, and whether the session is ready, is
settled when the catalog is known: it is the same in every state and in everything that is told of
it, whatever is chosen.

The invariant is kept by a choice because the chosen artifact and a proxy that comes with an engine
both are of the catalog, and no choice takes an artifact away.
-/

namespace Rollout

/-! ## The invariant -/

/-- For this component a selection chooses from the catalog: one of its artifacts if there are any,
and nothing otherwise. -/
def Selection.DrawsFrom (selection : Selection) (catalog : Catalog) (c : Component) : Prop :=
  match selection.get? c with
  | some a => a ∈ catalog.artifacts c
  | none => catalog.artifacts c = []

namespace Selection.DrawsFrom

variable {selection : Selection} {catalog : Catalog} {c d : Component} {a : Artifact}

/-- Something is chosen exactly if there is something to choose. -/
theorem contains_iff (h : selection.DrawsFrom catalog c) :
    selection.contains c = true ↔ catalog.artifacts c ≠ [] := by
  unfold DrawsFrom at h
  unfold contains
  cases hget : selection.get? c with
  | none =>
    rw [hget] at h
    simp [h]
  | some a =>
    rw [hget] at h
    simp [List.ne_nil_of_mem h]

/-- What is chosen is of the catalog. -/
theorem mem (h : selection.DrawsFrom catalog c) (hget : selection.get? c = some a) :
    a ∈ catalog.artifacts c := by
  unfold DrawsFrom at h
  rw [hget] at h
  exact h

/-- What chooses the same artifact draws from the same catalog. -/
theorem of_get?_eq {other : Selection} (h : other.DrawsFrom catalog c)
    (hget : selection.get? c = other.get? c) : selection.DrawsFrom catalog c := by
  unfold DrawsFrom
  rw [hget]
  exact h

/-- An artifact of the catalog may be chosen. -/
theorem of_mem (hget : selection.get? c = some a) (hmem : a ∈ catalog.artifacts c) :
    selection.DrawsFrom catalog c := by
  unfold DrawsFrom
  rw [hget]
  exact hmem

/-- A recommendation draws from the catalog. -/
theorem of_recommend {line : Option StableLine}
    (hget : selection.get? c = recommend catalog line c) : selection.DrawsFrom catalog c := by
  unfold DrawsFrom
  rw [hget]
  cases h : recommend catalog line c with
  | none => exact recommend_eq_none_iff.1 h
  | some a => exact mem_of_recommend h

end Selection.DrawsFrom

namespace Session

/-- A new session draws from its catalog. -/
theorem drawsFrom_seeded (catalog : Catalog) (policy : ResolverPolicy) (c : Component) :
    (seeded catalog policy).DrawsFrom catalog c := by
  by_cases hc : c = .proxy
  · subst hc
    have hproxy := get?_seeded_proxy catalog policy
    -- The proxy is the one for the engine or, without one, the recommended.
    cases hfound : (recommend catalog policy.preferredLine .core).bind catalog.proxyFor? with
    | none =>
      rw [hfound, Option.none_or] at hproxy
      exact .of_recommend hproxy
    | some proxy =>
      rw [hfound, Option.some_or] at hproxy
      obtain ⟨core, -, hfound⟩ := Option.bind_eq_some_iff.1 hfound
      exact .of_mem hproxy (Catalog.mem_of_proxyFor? hfound)
  · exact .of_recommend (get?_seeded_of_ne catalog policy hc)

/-- A choice from the catalog keeps the invariant. -/
theorem drawsFrom_choosing {s : Session} {c : Component} {a : Artifact}
    (hmem : a ∈ s.catalog.artifacts c) (h : ∀ d, s.selection.DrawsFrom s.catalog d)
    (d : Component) : (s.choosing c a).DrawsFrom s.catalog d := by
  by_cases hd : c = d
  · subst hd
    exact .of_mem (get?_choosing_self s c a) hmem
  · by_cases hproxy : c = .core ∧ d = .proxy
    · obtain ⟨rfl, rfl⟩ := hproxy
      -- The proxy is the one that the outcome leaves.
      have hget := get?_choosing_proxy s a
      rcases proxyOutcome_cases s.catalog s.selection a with
        ⟨proxy, -, hfound, hout⟩ | ⟨-, -, hout⟩ | ⟨-, hout⟩
      · rw [hout] at hget
        exact .of_mem hget (Catalog.mem_of_proxyFor? hfound)
      · rw [hout] at hget
        exact (h .proxy).of_get?_eq hget
      · rw [hout] at hget
        exact (h .proxy).of_get?_eq hget
    · exact (h d).of_get?_eq (get?_choosing_of_ne s a hd hproxy)

end Session

/-! ## What is missing -/

/-- The components that a flow requires and the catalog has nothing for, in listing order. -/
def Catalog.lacking (catalog : Catalog) (flow : Flow) : List Component :=
  flow.required.filter fun c => catalog.artifacts c = []

/-- A list that is in listing order already is its own normal form. -/
theorem Component.normalized_of_sublist {cs : List Component} (h : cs.Sublist all) :
    normalized cs = cs := by
  have hall : all.Nodup := by decide
  have hsub : cs.Sublist (normalized cs) := by
    have hself : cs.filter (· ∈ cs) = cs := List.filter_eq_self.2 fun c hc => decide_eq_true hc
    have hfilter := h.filter (· ∈ cs)
    rw [hself] at hfilter
    exact hfilter
  -- Both are sublists of all components, and the normal form is no longer.
  have hlength : (normalized cs).length ≤ cs.length :=
    List.Nodup.length_le_of_subset (hall.filter _) fun c hc => mem_normalized.1 hc
  exact (hsub.eq_of_length_le hlength).symm

/-- What a flow requires is listed in order. -/
theorem Flow.required_sublist (flow : Flow) : flow.required.Sublist Component.all := by
  cases flow <;> decide

/-- What is lacking is listed in order. -/
theorem Catalog.lacking_sublist (catalog : Catalog) (flow : Flow) :
    (catalog.lacking flow).Sublist Component.all :=
  List.filter_sublist.trans flow.required_sublist

namespace Session

/-- If the selection draws from the catalog, exactly what the catalog lacks is missing. -/
theorem missing_eq_lacking {s : Session} (h : ∀ c, s.selection.DrawsFrom s.catalog c) :
    s.missing = s.catalog.lacking s.flow := by
  have hmissing : isMissing s.catalog s.selection =
      fun c => decide (s.catalog.artifacts c = []) := by
    funext c
    have hcontains := (h c).contains_iff
    unfold isMissing Catalog.hasArtifacts
    by_cases hempty : s.catalog.artifacts c = []
    · simp [hempty]
    · simp [hempty, hcontains.2 hempty]
  unfold missing missingComponents
  rw [hmissing]
  exact Component.normalized_of_sublist (s.catalog.lacking_sublist s.flow)

/-- A choice does not tell of readiness. -/
theorem readinessEvaluated_notMem_choose (s : Session) (c : Component) (a : Artifact)
    (ready : Bool) (missing : List Component) (size : UInt64) :
    .readinessEvaluated ready missing size ∉ (s.choose c a).2.2 := by
  cases c with
  | core =>
    show _ ∉ .selectionChanged .core a.displayVersion :: (s.chooseCore a).2.2
    unfold chooseCore
    generalize changeCore s.catalog s.selection a = change
    obtain ⟨selection, outcome⟩ := change
    cases outcome <;> simp
  | _ => simp [choose]

/-- Only an evaluation tells of readiness, and it tells what holds then. -/
theorem eq_readiness_of_mem {s : Session} {action : Action} {ready : Bool}
    {missing : List Component} {size : UInt64}
    (h : .readinessEvaluated ready missing size ∈ (s.perform action).2.2) :
    .readinessEvaluated ready missing size = s.readiness := by
  rcases s.perform_cases action with ⟨c, key, a, -, -, hperform⟩ | ⟨-, htold, -⟩
  · rw [hperform] at h
    exact absurd h (readinessEvaluated_notMem_choose s c a ready missing size)
  · exact htold _ h

/-! ## Every state that is reached -/

/-- What a session keeps from its start: its catalog and flow, that it draws from the catalog, and
that all it has told of readiness is what the catalog lacks. -/
structure Settled (catalog : Catalog) (flow : Flow) (turns : List Turn) (s : Session) : Prop where
  catalog_eq : s.catalog = catalog
  flow_eq : s.flow = flow
  drawsFrom : ∀ c, s.selection.DrawsFrom catalog c
  told_eq : ∀ ready missing size, .readinessEvaluated ready missing size ∈ told turns →
    ready = (catalog.lacking flow).isEmpty ∧ missing = catalog.lacking flow

namespace Settled

variable {catalog : Catalog} {flow : Flow} {turns : List Turn} {s : Session}

/-- A settled session misses what the catalog lacks. -/
theorem missing_eq (h : Settled catalog flow turns s) : s.missing = catalog.lacking flow := by
  obtain ⟨rfl, rfl, hdraws, -⟩ := h
  exact missing_eq_lacking hdraws

/-- A settled session is ready if the catalog lacks nothing. -/
theorem isReady_eq (h : Settled catalog flow turns s) :
    s.isReady = (catalog.lacking flow).isEmpty := by
  rw [← h.missing_eq]
  rfl

/-- A settled session tells of its readiness what the catalog lacks. -/
theorem readiness_eq (h : Settled catalog flow turns s) :
    s.readiness =
      .readinessEvaluated (catalog.lacking flow).isEmpty (catalog.lacking flow) s.size := by
  unfold readiness
  rw [h.isReady_eq, h.missing_eq]

/-- A new session is settled. -/
theorem start (catalog : Catalog) (flow : Flow) (policy : ResolverPolicy) :
    Settled catalog flow [] (Session.start catalog flow policy).1 := by
  rw [start_fst]
  exact ⟨rfl, rfl, drawsFrom_seeded catalog policy, fun _ _ _ h => nomatch h⟩

/-- Every action keeps a session settled. -/
theorem perform (h : Settled catalog flow turns s) (action : Action) :
    Settled catalog flow (turns ++ [s.turn action]) (s.perform action).1 := by
  -- What is told of readiness is what holds before the action, which is what the catalog lacks.
  have htold : ∀ ready missing size,
      .readinessEvaluated ready missing size ∈ told (turns ++ [s.turn action]) →
        ready = (catalog.lacking flow).isEmpty ∧ missing = catalog.lacking flow := by
    intro ready missing size hmem
    rw [told_concat, List.mem_append] at hmem
    rcases hmem with hmem | hmem
    · exact h.told_eq ready missing size hmem
    · have heq := eq_readiness_of_mem hmem
      rw [h.readiness_eq, Event.readinessEvaluated.injEq] at heq
      exact ⟨heq.1, heq.2.1⟩
  obtain ⟨rfl, rfl, hdraws, -⟩ := h
  rcases s.perform_cases action with
    ⟨c, key, a, -, hfind, hperform⟩ | ⟨-, -, hcatalog, hflow, -, hselection⟩
  · -- A choice draws from the catalog, and everything else leaves the selection.
    rw [hperform]
    exact ⟨rfl, rfl, drawsFrom_choosing (mem_of_find hfind) hdraws, htold⟩
  · refine ⟨hcatalog, hflow, fun c => ?_, htold⟩
    rw [hselection]
    exact hdraws c

/-- Every state that is reached from the start is settled. -/
theorem after (catalog : Catalog) (flow : Flow) (policy : ResolverPolicy)
    (actions : List Action) :
    Settled catalog flow ((Session.start catalog flow policy).1.history actions)
      ((Session.start catalog flow policy).1.after actions) :=
  run_induction (start catalog flow policy) (fun _ _ a h => h.perform a) actions

end Settled

/-- A new session is ready exactly if the catalog has something for all that is required. -/
theorem isReady_start_iff {catalog : Catalog} {flow : Flow} {policy : ResolverPolicy} :
    (start catalog flow policy).1.isReady = true ↔
      ∀ c ∈ flow.required, catalog.artifacts c ≠ [] := by
  rw [(Settled.start catalog flow policy).isReady_eq]
  simp [Catalog.lacking, List.filter_eq_nil_iff]

/-- A new session is not ready exactly if something required has no artifact. -/
theorem isReady_start_eq_false_iff {catalog : Catalog} {flow : Flow} {policy : ResolverPolicy} :
    (start catalog flow policy).1.isReady = false ↔
      ∃ c ∈ flow.required, catalog.artifacts c = [] := by
  rw [← Bool.not_eq_true, isReady_start_iff]
  simp

/-- In every state that a session reaches, an artifact is chosen for exactly the components with
artifacts in the catalog, and it is one of them. What is missing is what the flow requires and the
catalog lacks, in listing order, and this is also what is answered, told and summed up of it,
whatever has been done before. -/
theorem readiness_after (catalog : Catalog) (flow : Flow) (policy : ResolverPolicy)
    (actions : List Action) :
    let first := (Session.start catalog flow policy).1
    let s := first.after actions
    let lacking := catalog.lacking flow
    (∀ c, (s.selection.contains c = true ↔ catalog.artifacts c ≠ []) ∧
      ∀ a, s.selection.get? c = some a → a ∈ catalog.artifacts c) ∧
    s.missing = lacking ∧ lacking.Pairwise (fun c d => c.rank < d.rank) ∧
    s.isReady = lacking.isEmpty ∧
    s.perform .evaluate = (s, .verdict lacking.isEmpty,
      [.readinessEvaluated lacking.isEmpty lacking s.size]) ∧
    (∀ ready missing size, .readinessEvaluated ready missing size ∈ told (first.history actions) →
      ready = lacking.isEmpty ∧ missing = lacking) ∧
    ∀ ignored, (s.summary ignored).ready = lacking.isEmpty ∧
      (s.summary ignored).missing = lacking := by
  intro first s lacking
  have hsettled : Settled catalog flow (first.history actions) s :=
    .after catalog flow policy actions
  have hmissing : s.missing = lacking := hsettled.missing_eq
  have hordered : Component.all.Pairwise (fun c d => c.rank < d.rank) := by decide
  refine ⟨fun c => ⟨(hsettled.drawsFrom c).contains_iff, fun a => (hsettled.drawsFrom c).mem⟩,
    hmissing, hordered.sublist (catalog.lacking_sublist flow), hsettled.isReady_eq, ?_,
    hsettled.told_eq, fun ignored => ⟨?_, hmissing⟩⟩
  · show (s, Answer.verdict s.isReady, [s.readiness]) = _
    rw [hsettled.isReady_eq, hsettled.readiness_eq]
  · show s.missing.isEmpty = _
    rw [hmissing]

end Session

end Rollout
