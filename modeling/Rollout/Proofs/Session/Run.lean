import Mathlib.Data.List.Induction
import Rollout.Proofs.Compatibility
import Rollout.Session

/-!
# Runs of a session

A session is used by acting on it: choosing an artifact, setting the components that count, keeping
findings, asking whether it is ready. `perform` carries out one action and says what came of it.
`after` is the session that a list of actions leads to and `history` is the list of what came of
them, so that a state that can be reached is `after` of some list. `run_induction` is the induction
on such a list that every invariant of sessions uses.

The statements on `select` and `choose` are their whole effect: a choice finds an artifact in the
catalog or changes nothing, and it changes only the selection.
-/

namespace Rollout

namespace Session

/-! ## Actions -/

/-- What can be done with a session. -/
inductive Action where
  | select (c : Component) (key : Key)
  | setActive (active : List Component)
  | setFindings (findings : List Finding)
  /-- Asks whether the session is ready, and tells it. -/
  | evaluate
  deriving DecidableEq, Repr

/-- What is answered to an action. -/
inductive Answer where
  | selected (outcome : ProxyOutcome)
  | refused (cause : SelectionError)
  | noted
  | verdict (ready : Bool)
  deriving DecidableEq, Repr

/-- An action, and what came of it. -/
structure Turn where
  action : Action
  answer : Answer
  events : List Event
  deriving DecidableEq, Repr

/-- Carries out an action. A choice that is refused changes nothing and tells nothing. -/
def perform (s : Session) : Action → Session × Answer × List Event
  | .select c key =>
    match s.select c key with
    | .ok (s, outcome, events) => (s, .selected outcome, events)
    | .error cause => (s, .refused cause, [])
  | .setActive active => (s.setActive active, .noted, [])
  | .setFindings findings => (s.setFindings findings, .noted, [])
  | .evaluate => (s, .verdict s.isReady, [s.readiness])

/-- The turn that an action is in a session. -/
def turn (s : Session) (a : Action) : Turn :=
  ⟨a, (s.perform a).2.1, (s.perform a).2.2⟩

/-- The session that actions lead to. -/
def after (s : Session) (actions : List Action) : Session :=
  actions.foldl (fun s a => (s.perform a).1) s

/-- The turns of a list of actions. -/
def history (s : Session) : List Action → List Turn
  | [] => []
  | a :: actions => s.turn a :: history (s.perform a).1 actions

/-- The events of a history. -/
def told (turns : List Turn) : List Event :=
  turns.flatMap Turn.events

/-- Without an action the session stays as it is. -/
@[simp] theorem after_nil (s : Session) : s.after [] = s := rfl

/-- The later actions begin where the first one leads. -/
theorem after_cons (s : Session) (a : Action) (actions : List Action) :
    s.after (a :: actions) = (s.perform a).1.after actions := rfl

/-- The last action begins where the others lead. -/
@[simp] theorem after_concat (s : Session) (actions : List Action) (a : Action) :
    s.after (actions ++ [a]) = ((s.after actions).perform a).1 := by
  simp [after]

/-- Without an action there is no turn. -/
@[simp] theorem history_nil (s : Session) : s.history [] = [] := rfl

/-- The later turns happen in the session that the first action leads to. -/
theorem history_cons (s : Session) (a : Action) (actions : List Action) :
    s.history (a :: actions) = s.turn a :: (s.perform a).1.history actions := rfl

/-- The last turn happens in the session that the actions before it lead to. -/
@[simp] theorem history_concat (s : Session) (actions : List Action) (a : Action) :
    s.history (actions ++ [a]) = s.history actions ++ [(s.after actions).turn a] := by
  induction actions generalizing s with
  | nil => rfl
  | cons b actions ih =>
    rw [List.cons_append, history_cons, ih, history_cons]
    rfl

/-- The events of the last turn are told last. -/
@[simp] theorem told_concat (turns : List Turn) (t : Turn) :
    told (turns ++ [t]) = told turns ++ t.events := by
  simp [told]

/-- What holds at the start with no turn taken, and is kept by every action, holds of every state
that is reached and of the turns that led to it. -/
theorem run_induction {P : List Turn → Session → Prop} {s : Session} (start : P [] s)
    (step : ∀ turns s a, P turns s → P (turns ++ [s.turn a]) (s.perform a).1)
    (actions : List Action) : P (s.history actions) (s.after actions) := by
  induction actions using List.reverseRecOn with
  | nil => exact start
  | append_singleton actions a ih =>
    rw [history_concat, after_concat]
    exact step _ _ a ih

/-! ## The start -/

/-- The selection of a new session. -/
def seeded (catalog : Catalog) (policy : ResolverPolicy) : Selection :=
  let recommended : Selection := ⟨recommendations catalog policy⟩
  match recommend catalog policy.preferredLine .core with
  | none => recommended
  | some core => (changeCore catalog (recommended.clear .core) core).1

/-- What a new session holds. -/
theorem start_fst (catalog : Catalog) (flow : Flow) (policy : ResolverPolicy) :
    (start catalog flow policy).1 = {
      catalog, flow, policy
      selection := seeded catalog policy
      active := flow.initiallyActive
      findings := [] } := by
  -- The engine that is recommended is taken out and chosen anew, or there is none.
  have hcore : (recommendations catalog policy).core =
      recommend catalog policy.preferredLine .core := rfl
  simp only [start, seeded, hcore]
  cases recommend catalog policy.preferredLine .core <;> rfl

/-- A new session has no findings. -/
theorem findings_start (catalog : Catalog) (flow : Flow) (policy : ResolverPolicy) :
    (start catalog flow policy).1.findings = [] := by
  rw [start_fst]

/-- A session tells only what concerns its choices. -/
theorem source_of_mem_chooseCore {s : Session} {core : Artifact} {event : Event}
    (h : event ∈ (s.chooseCore core).2.2) : event.source = .resolver := by
  unfold chooseCore at h
  generalize changeCore s.catalog s.selection core = change at h
  obtain ⟨selection, outcome⟩ := change
  cases outcome with
  | unchanged => contradiction
  | resolved proxy =>
    cases List.mem_singleton.1 h
    rfl
  | noCandidate =>
    cases List.mem_singleton.1 h
    rfl

/-- So it does at the start: its recommendations, and what becomes of the proxy. -/
theorem source_of_mem_start {catalog : Catalog} {flow : Flow} {policy : ResolverPolicy}
    {event : Event} (h : event ∈ (start catalog flow policy).2) : event.source = .resolver := by
  have hrecommended : ∀ recommended : ByComponent (Option Artifact),
      event ∈ recommended.present.map (fun p => .recommended p.1 p.2.version p.2.release) →
        event.source = .resolver := by
    intro recommended hmem
    obtain ⟨p, -, rfl⟩ := List.mem_map.1 hmem
    rfl
  unfold start at h
  dsimp only at h
  split at h
  · exact hrecommended _ h
  · rcases List.mem_append.1 h with h | h
    · exact hrecommended _ h
    · exact source_of_mem_chooseCore h

/-- A recommendation is made for each component by itself. -/
theorem get?_recommendations (catalog : Catalog) (policy : ResolverPolicy) (c : Component) :
    Selection.get? ⟨recommendations catalog policy⟩ c =
      recommend catalog policy.preferredLine c :=
  ByComponent.get_ofFn _ c

/-- A new session chooses what is recommended, except that the engine may bring its proxy. -/
theorem get?_seeded_of_ne (catalog : Catalog) (policy : ResolverPolicy) {c : Component}
    (hproxy : c ≠ .proxy) :
    (seeded catalog policy).get? c = recommend catalog policy.preferredLine c := by
  unfold seeded
  cases hcore : recommend catalog policy.preferredLine .core with
  | none => exact get?_recommendations catalog policy c
  | some core =>
    -- Of the components but the proxy, choosing the engine changes only the engine.
    by_cases hc : c = .core
    · subst hc
      rw [hcore]
      exact get?_changeCore_core _ _ _
    · show (changeCore _ _ core).1.get? c = _
      rw [get?_changeCore_of_ne _ _ _ hc hproxy, Selection.get?_clear_of_ne _ (Ne.symm hc),
        get?_recommendations]

/-- A new session has the proxy that fits its engine, and otherwise the recommended one. -/
theorem get?_seeded_proxy (catalog : Catalog) (policy : ResolverPolicy) :
    (seeded catalog policy).get? .proxy =
      ((recommend catalog policy.preferredLine .core).bind catalog.proxyFor?).or
        (recommend catalog policy.preferredLine .proxy) := by
  unfold seeded
  cases hcore : recommend catalog policy.preferredLine .core with
  | none => exact get?_recommendations catalog policy .proxy
  | some core =>
    show (changeCore _ _ core).1.get? .proxy = _
    rw [get?_changeCore_proxy, Selection.get?_clear_of_ne _ (by decide), get?_recommendations]
    -- The engine was taken out, so a proxy is asked for.
    have hneeds : needsProxy (Selection.get? (.clear ⟨recommendations catalog policy⟩ .core) .core)
        core = true := by simp [needsProxy]
    rcases proxyOutcome_cases catalog (.clear ⟨recommendations catalog policy⟩ .core) core with
      ⟨proxy, -, hfound, hout⟩ | ⟨-, hfound, hout⟩ | ⟨hno, -⟩
    · simp [hout, hfound, ProxyOutcome.proxyAfter]
    · simp [hout, hfound, ProxyOutcome.proxyAfter]
    · rw [hneeds] at hno
      contradiction

/-! ## Choices -/

/-- A choice finds the first artifact of the catalog that has the key. -/
theorem find_eq_ok_iff {s : Session} {c : Component} {key : Key} {a : Artifact} :
    s.find c key = .ok a ↔ s.catalog.find? c key = some a := by
  unfold find Catalog.find? Catalog.artifacts
  cases s.catalog.artifacts? c with
  | none => simp
  | some artifacts =>
    cases hfound : artifacts.find? (·.hasKey key) <;> simp [hfound]

/-- A choice finds nothing exactly if the catalog does not. -/
theorem exists_find_eq_error_iff {s : Session} {c : Component} {key : Key} :
    (∃ cause, s.find c key = .error cause) ↔ s.catalog.find? c key = none := by
  cases hfind : s.find c key with
  | ok a =>
    have hfound : s.catalog.find? c key = some a := find_eq_ok_iff.1 hfind
    simp [hfound]
  | error cause =>
    have hnone : s.catalog.find? c key = none := by
      rw [Option.eq_none_iff_forall_ne_some]
      intro a ha
      rw [find_eq_ok_iff.2 ha] at hfind
      contradiction
    simp [hnone]

/-- What is found is in the catalog. -/
theorem mem_of_find {s : Session} {c : Component} {key : Key} {a : Artifact}
    (h : s.find c key = .ok a) : a ∈ s.catalog.artifacts c :=
  List.mem_of_find?_eq_some (find_eq_ok_iff.1 h)

/-- A choice whose key is found is carried out. -/
theorem select_eq_ok_of_find {s : Session} {c : Component} {key : Key} {a : Artifact}
    (h : s.find c key = .ok a) : s.select c key = .ok (s.choose c a) := by
  unfold select
  rw [h]
  rfl

/-- A choice whose key is not found is refused, for the cause that is given for that. -/
theorem select_eq_error_of_find {s : Session} {c : Component} {key : Key} {cause : SelectionError}
    (h : s.find c key = .error cause) : s.select c key = .error cause := by
  unfold select
  rw [h]
  rfl

/-- The selection after an artifact has been chosen. -/
def choosing (s : Session) (c : Component) (a : Artifact) : Selection :=
  if c = .core then (changeCore s.catalog s.selection a).1 else s.selection.set c a

/-- What becomes of the proxy when an artifact is chosen. -/
def outcomeOf (s : Session) (c : Component) (a : Artifact) : ProxyOutcome :=
  if c = .core then proxyOutcome s.catalog s.selection a else .unchanged

/-- A choice changes the selection and nothing else. -/
theorem choose_fst (s : Session) (c : Component) (a : Artifact) :
    (s.choose c a).1 = { s with selection := s.choosing c a } := by
  cases c <;> rfl

/-- The outcome of a choice is what becomes of the proxy. -/
theorem choose_outcome (s : Session) (c : Component) (a : Artifact) :
    (s.choose c a).2.1 = s.outcomeOf c a := by
  cases c with
  | core => exact changeCore_snd s.catalog s.selection a
  | _ => rfl

/-- The chosen artifact is selected. -/
@[simp] theorem get?_choosing_self (s : Session) (c : Component) (a : Artifact) :
    (s.choosing c a).get? c = some a := by
  unfold choosing
  split
  · next hc => rw [hc, get?_changeCore_core]
  · exact Selection.get?_set_self _ _ _

/-- A choice leaves the other components alone, except that the engine may bring its proxy. -/
theorem get?_choosing_of_ne (s : Session) {c d : Component} (a : Artifact) (hne : c ≠ d)
    (hproxy : ¬ (c = .core ∧ d = .proxy)) :
    (s.choosing c a).get? d = s.selection.get? d := by
  unfold choosing
  split
  · next hc =>
    subst hc
    exact get?_changeCore_of_ne _ _ _ hne.symm fun hd => hproxy ⟨rfl, hd⟩
  · exact Selection.get?_set_of_ne _ _ hne

/-- The proxy after an engine has been chosen is the one that the outcome leaves. -/
theorem get?_choosing_proxy (s : Session) (core : Artifact) :
    (s.choosing .core core).get? .proxy =
      (proxyOutcome s.catalog s.selection core).proxyAfter (s.selection.get? .proxy) :=
  get?_changeCore_proxy _ _ _

/-- What an action does: a choice that finds its artifact selects it. Everything else leaves
catalog, flow, policy and selection as they are, and tells nothing but the readiness. -/
theorem perform_cases (s : Session) (action : Action) :
    (∃ c key a, action = .select c key ∧ s.find c key = .ok a ∧
      s.perform action = ({ s with selection := s.choosing c a }, .selected (s.outcomeOf c a),
        (s.choose c a).2.2)) ∨
    ((∀ outcome, (s.perform action).2.1 ≠ .selected outcome) ∧
      (∀ event ∈ (s.perform action).2.2, event = s.readiness) ∧
      (s.perform action).1.catalog = s.catalog ∧ (s.perform action).1.flow = s.flow ∧
      (s.perform action).1.policy = s.policy ∧ (s.perform action).1.selection = s.selection) := by
  cases action with
  | select c key =>
    -- A choice is carried out if its artifact is found, and refused if not.
    cases hfind : s.find c key with
    | ok a =>
      refine .inl ⟨c, key, a, rfl, hfind, ?_⟩
      simp only [perform, select_eq_ok_of_find hfind, choose_fst, choose_outcome]
    | error cause =>
      have hselect := select_eq_error_of_find hfind
      refine .inr ?_
      simp [perform, hselect]
  | setActive active => exact .inr ⟨by simp [perform], by simp [perform], rfl, rfl, rfl, rfl⟩
  | setFindings findings => exact .inr ⟨by simp [perform], by simp [perform], rfl, rfl, rfl, rfl⟩
  | evaluate => exact .inr ⟨by simp [perform], by simp [perform], rfl, rfl, rfl, rfl⟩

end Session

end Rollout
