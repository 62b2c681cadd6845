import Rollout.Proofs.Recommendation
import Rollout.Proofs.Session.Run

/-!
# What a session tells

The events of a session are told from four places: a recommendation for each component at the start,
the choice of an artifact, what becomes of the proxy when an engine is chosen, and the question
whether the session is ready. `ProxyTold` and `Turn.Tells` say what is told of a step in terms of
the state before it and the state after it, not of how the step is carried out.

A new session tells its opening (`OpeningTold`) and every action tells its turn (`turn_tells`). So
the stream of a run is settled, in count, order and content, by its states and answers
(`event_stream`).
-/

namespace Rollout

namespace Session

/-! ## One step -/

/-- What is told of the proxy when an engine has been chosen, between the selection before and the
one after it: a proxy that came with the engine is named, and so is one that stays although it does
not fit. -/
inductive ProxyTold (before after : Selection) : ProxyOutcome → List Event → Prop where
  | unchanged : ProxyTold before after .unchanged []
  | resolved {core proxy : Artifact} (hcore : after.get? .core = some core)
      (hproxy : after.get? .proxy = some proxy) :
      ProxyTold before after (.resolved proxy)
        [.proxyResolved core.version proxy.version core.edition]
  | noCandidate {core : Artifact} (hcore : after.get? .core = some core)
      (hproxy : after.get? .proxy = before.get? .proxy) :
      ProxyTold before after .noCandidate
        [.noCompatibleProxy core.version core.edition
          ((before.get? .proxy).map Artifact.displayVersion)]

/-- What is told of a turn, between the session before and the one after it. A choice that finds its
artifact tells of it and then of the proxy, a question for readiness tells the verdict, and nothing
is told of anything else. -/
inductive Turn.Tells (before after : Session) : Turn → Prop where
  | selected {c : Component} {key : Key} {a : Artifact} {outcome : ProxyOutcome}
      {events : List Event} (hfound : before.catalog.find? c key = some a)
      (hchosen : after.selection.get? c = some a)
      (hproxy : ProxyTold before.selection after.selection outcome events) :
      Tells before after
        ⟨.select c key, .selected outcome, .selectionChanged c a.displayVersion :: events⟩
  | refused {c : Component} {key : Key} {cause : SelectionError}
      (hnone : before.catalog.find? c key = none) (hsame : after = before) :
      Tells before after ⟨.select c key, .refused cause, []⟩
  | evaluated (hsame : after = before) :
      Tells before after ⟨.evaluate, .verdict before.isReady,
        [.readinessEvaluated before.isReady before.missing before.size]⟩
  | setActive {active : List Component} (hsame : after.selection = before.selection) :
      Tells before after ⟨.setActive active, .noted, []⟩
  | setFindings {findings : List Finding} (hsame : after.selection = before.selection) :
      Tells before after ⟨.setFindings findings, .noted, []⟩

/-- The choice of an engine tells what becomes of the proxy. -/
theorem proxyTold_chooseCore (s : Session) (core : Artifact) :
    ProxyTold s.selection (s.chooseCore core).1.selection (s.chooseCore core).2.1
      (s.chooseCore core).2.2 := by
  have hcore := get?_changeCore_core s.catalog s.selection core
  have hproxy := get?_changeCore_proxy s.catalog s.selection core
  rw [← changeCore_snd] at hproxy
  unfold chooseCore
  generalize changeCore s.catalog s.selection core = change at hcore hproxy ⊢
  obtain ⟨selection, outcome⟩ := change
  cases outcome with
  | unchanged => exact .unchanged
  | resolved proxy => exact .resolved hcore hproxy
  | noCandidate =>
    -- The event is made from the selection after the change, whose proxy is the one before it.
    replace hproxy : selection.get? .proxy = s.selection.get? .proxy := hproxy
    dsimp only
    rw [hproxy]
    exact .noCandidate hcore hproxy

/-- An engine that is chosen where none was before asks for a proxy. -/
theorem chooseCore_ne_unchanged {s : Session} (h : s.selection.get? .core = none)
    (core : Artifact) : (s.chooseCore core).2.1 ≠ .unchanged := by
  have houtcome : (s.chooseCore core).2.1 = proxyOutcome s.catalog s.selection core :=
    changeCore_snd s.catalog s.selection core
  rw [houtcome, ne_eq, proxyOutcome_eq_unchanged_iff]
  rintro ⟨old, hold, -⟩
  rw [h] at hold
  contradiction

/-- A choice tells of the artifact and then of the proxy. -/
theorem events_choose (s : Session) (c : Component) (a : Artifact) :
    ∃ events, (s.choose c a).2.2 = .selectionChanged c a.displayVersion :: events ∧
      ProxyTold s.selection (s.choose c a).1.selection (s.choose c a).2.1 events := by
  cases c with
  | core => exact ⟨_, rfl, proxyTold_chooseCore s a⟩
  | _ => exact ⟨[], rfl, .unchanged⟩

/-- Every action tells what there is to tell of it. -/
theorem turn_tells (s : Session) (action : Action) :
    (s.turn action).Tells s (s.perform action).1 := by
  cases action with
  | select c key =>
    cases hfind : s.find c key with
    | ok a =>
      have hselect := select_eq_ok_of_find hfind
      obtain ⟨events, htold, hproxy⟩ := events_choose s c a
      -- What was found is chosen, and the events are those of the choice.
      have hchosen : (s.choose c a).1.selection.get? c = some a := by
        rw [choose_fst]
        exact get?_choosing_self s c a
      simp only [turn, perform, hselect, htold]
      exact .selected (find_eq_ok_iff.1 hfind) hchosen hproxy
    | error cause =>
      have hselect := select_eq_error_of_find hfind
      -- A refusal means that nothing was found.
      have hnone : s.catalog.find? c key = none := exists_find_eq_error_iff.1 ⟨cause, hfind⟩
      simp only [turn, perform, hselect]
      exact .refused hnone rfl
  | setActive active => exact .setActive rfl
  | setFindings findings => exact .setFindings rfl
  | evaluate => exact .evaluated rfl

/-! ## The start -/

/-- Only the proxy before counts for what is told of it. -/
theorem ProxyTold.of_get?_proxy_eq {before before' after : Selection} {outcome : ProxyOutcome}
    {events : List Event} (h : ProxyTold before after outcome events)
    (hsame : before.get? .proxy = before'.get? .proxy) :
    ProxyTold before' after outcome events := by
  cases h with
  | unchanged => exact .unchanged
  | resolved hcore hproxy => exact .resolved hcore hproxy
  | noCandidate hcore hproxy =>
    rw [hsame] at hproxy ⊢
    exact .noCandidate hcore hproxy

/-- The recommendation for each component that has artifacts is told, in listing order. -/
def Recommended (catalog : Catalog) (policy : ResolverPolicy) (events : List Event) : Prop :=
  List.Forall₂ (fun c event => ∃ a, recommend catalog policy.preferredLine c = some a ∧
      event = .recommended c a.version a.release)
    (Component.all.filter fun c => catalog.artifacts c ≠ []) events

/-- What is told when a session begins: the recommendations and then, if there is an engine, what
becomes of the recommended proxy. -/
inductive OpeningTold (catalog : Catalog) (policy : ResolverPolicy) (first : Session) :
    List Event → Prop where
  | withoutEngine {recommended : List Event} (hcore : catalog.artifacts .core = [])
      (hrecommended : Recommended catalog policy recommended) :
      OpeningTold catalog policy first recommended
  | withEngine {recommended more : List Event} {outcome : ProxyOutcome}
      (hcore : catalog.artifacts .core ≠ [])
      (hrecommended : Recommended catalog policy recommended) (hchanged : outcome ≠ .unchanged)
      (hproxy : ProxyTold ⟨recommendations catalog policy⟩ first.selection outcome more) :
      OpeningTold catalog policy first (recommended ++ more)

/-- For each of some components that has artifacts its recommendation is told, in their order. -/
theorem forall₂_recommended (catalog : Catalog) (policy : ResolverPolicy) (cs : List Component) :
    List.Forall₂ (fun c event => ∃ a, recommend catalog policy.preferredLine c = some a ∧
        event = .recommended c a.version a.release)
      (cs.filter fun c => catalog.artifacts c ≠ [])
      ((cs.filterMap fun c => ((recommendations catalog policy).get c).map (c, ·)).map
        fun (c, a) => Event.recommended c a.version a.release) := by
  induction cs with
  | nil => exact .nil
  | cons c cs ih =>
    have hget : (recommendations catalog policy).get c =
        recommend catalog policy.preferredLine c := get?_recommendations catalog policy c
    cases hrecommend : recommend catalog policy.preferredLine c with
    | none =>
      -- Without artifacts there is no recommendation, and the component does not count.
      have hempty : catalog.artifacts c = [] := recommend_eq_none_iff.1 hrecommend
      rw [List.filter_cons_of_neg (by simp [hempty]),
        List.filterMap_cons_none (by rw [hget, hrecommend]; rfl)]
      exact ih
    | some a =>
      -- With artifacts there is one.
      have hsome : catalog.artifacts c ≠ [] := List.ne_nil_of_mem (mem_of_recommend hrecommend)
      rw [List.filter_cons_of_pos (by simp [hsome]),
        List.filterMap_cons_some (by rw [hget, hrecommend]; rfl)]
      exact .cons ⟨a, hrecommend, rfl⟩ ih

/-- The events with which a session begins are those of its opening. -/
theorem openingTold_start (catalog : Catalog) (flow : Flow) (policy : ResolverPolicy) :
    OpeningTold catalog policy (start catalog flow policy).1 (start catalog flow policy).2 := by
  have hrecommended : Recommended catalog policy _ :=
    forall₂_recommended catalog policy Component.all
  have hcore : (recommendations catalog policy).core =
      recommend catalog policy.preferredLine .core := rfl
  -- The session with all that is recommended but the engine.
  let waiting : Session := {
    catalog, flow, policy
    selection := .clear ⟨recommendations catalog policy⟩ .core
    active := flow.initiallyActive
    findings := [] }
  unfold start
  dsimp only
  rw [hcore]
  cases hrecommend : recommend catalog policy.preferredLine .core with
  | none => exact .withoutEngine (recommend_eq_none_iff.1 hrecommend) hrecommended
  | some core =>
    -- The engine that is recommended is chosen where none is, so it asks for a proxy.
    have hsome : catalog.artifacts .core ≠ [] := List.ne_nil_of_mem (mem_of_recommend hrecommend)
    have hnone : waiting.selection.get? .core = none := Selection.get?_clear_self _ _
    have hproxy : waiting.selection.get? .proxy =
        Selection.get? ⟨recommendations catalog policy⟩ .proxy :=
      Selection.get?_clear_of_ne _ (by decide)
    exact .withEngine hsome hrecommended (chooseCore_ne_unchanged hnone core)
      ((proxyTold_chooseCore waiting core).of_get?_proxy_eq hproxy)

/-! ## A run -/

/-- The turns of a run are its actions in order, and each tells what there is to tell of it between
the states before and after it. -/
theorem history_tells (s : Session) (actions : List Action) :
    (s.history actions).map Turn.action = actions ∧
      ∀ (i : Nat) (t : Turn), (s.history actions)[i]? = some t →
        t.Tells (s.after (actions.take i)) (s.after (actions.take (i + 1))) := by
  induction actions generalizing s with
  | nil => exact ⟨rfl, fun i t h => by simp at h⟩
  | cons a actions ih =>
    obtain ⟨hactions, htells⟩ := ih (s.perform a).1
    refine ⟨congrArg (a :: ·) hactions, fun i t h => ?_⟩
    cases i with
    | zero =>
      cases h
      exact turn_tells s a
    | succ i => exact htells i t h

/-- Everything that a session tells, from its start on and through some actions. -/
def stream (catalog : Catalog) (flow : Flow) (policy : ResolverPolicy) (actions : List Action) :
    List Event :=
  (start catalog flow policy).2 ++ told ((start catalog flow policy).1.history actions)

/-- A session first tells its recommendation for each component with artifacts, in listing order,
and, if there is an engine, what becomes of the recommended proxy: another is found, or it is kept.
From then on each action tells, in order, what there is to tell of it between the states before and
after it, and nothing else is told. -/
theorem event_stream (catalog : Catalog) (flow : Flow) (policy : ResolverPolicy)
    (actions : List Action) :
    let first := (start catalog flow policy).1
    let turns := first.history actions
    ∃ opening, stream catalog flow policy actions = opening ++ turns.flatMap Turn.events ∧
      OpeningTold catalog policy first opening ∧ turns.map Turn.action = actions ∧
      ∀ (i : Nat) (t : Turn), turns[i]? = some t →
        t.Tells (first.after (actions.take i)) (first.after (actions.take (i + 1))) := by
  intro first turns
  obtain ⟨hactions, htells⟩ := history_tells first actions
  exact ⟨_, rfl, openingTold_start catalog flow policy, hactions, htells⟩

/-- An engine for which no proxy fits leaves the recommended one, is told so, and is told so again
when it is chosen after another. -/
example :
    let build (version : String) : Artifact := ⟨version, none, "c", .community, 0, .remote⟩
    let catalog := (Catalog.empty.insert .core [build "4.2", build "5.0"]).insert .proxy
      [build "5.1", build "5.0"]
    stream catalog .install .standard [.select .core ⟨"5.0", none, "c"⟩,
        .select .core ⟨"4.2", none, "c"⟩, .select .core ⟨"9", none, "c"⟩] =
      [.recommended .core "4.2" none, .recommended .proxy "5.1" none,
        .noCompatibleProxy "4.2" .community (some "5.1"),
        .selectionChanged .core "5.0", .proxyResolved "5.0" "5.0" .community,
        .selectionChanged .core "4.2", .noCompatibleProxy "4.2" .community (some "5.0")] := by
  decide +kernel

end Session

end Rollout
