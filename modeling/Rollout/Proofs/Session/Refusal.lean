import Rollout.Proofs.Session.Run

/-!
# What a choice changes, and what a refused one does not

A choice looks for its key in the catalog. If nothing is found the choice is refused, with a cause
that tells a component that is absent from one without such an artifact (`find_eq_error_iff`), and
the session stays as it was. Otherwise the artifact that is found takes the place of the one before
it, and nothing else changes but the proxy of an engine (`select_effect`).

A refused choice tells nothing either. So a run may be taken without its refused choices: the other
turns are the same, and so are the session at the end and all that is told (`run_accepted`).
-/

namespace Rollout

namespace Session

variable {s : Session} {c : Component} {key : Key}

/-! ## Refusals -/

/-- The cause names the component if it is absent, and otherwise also the text that no artifact of
it has. -/
theorem find_eq_error_iff {cause : SelectionError} :
    s.find c key = .error cause ↔
      (s.catalog.artifacts? c = none ∧ cause = .componentNotInCatalog c.name) ∨
      ∃ artifacts, s.catalog.artifacts? c = some artifacts ∧
        (∀ a ∈ artifacts, a.key.text ≠ key.text) ∧ cause = .unknownArtifact c.name key.text := by
  unfold find
  cases hlist : s.catalog.artifacts? c with
  | none => simp [eq_comm]
  | some artifacts =>
    -- The search finds nothing exactly if no artifact of the list has the text.
    have hnone : artifacts.find? (·.hasKey key) = none ↔
        ∀ a ∈ artifacts, a.key.text ≠ key.text := by
      simp [Artifact.hasKey]
    dsimp only
    cases hfound : artifacts.find? (·.hasKey key) with
    | none =>
      constructor
      · intro h
        exact .inr ⟨artifacts, rfl, hnone.1 hfound, (Except.error.inj h).symm⟩
      · rintro (⟨habsent, -⟩ | ⟨_, -, -, rfl⟩)
        · contradiction
        · rfl
    | some a =>
      refine iff_of_false (by simp) ?_
      rintro (⟨habsent, -⟩ | ⟨_, hsame, htexts, -⟩)
      · contradiction
      · cases hsame
        rw [hnone.2 htexts] at hfound
        contradiction

/-- A choice is refused exactly if its key is not found, and for the cause of that. -/
theorem select_eq_error_iff {cause : SelectionError} :
    s.select c key = .error cause ↔ s.find c key = .error cause := by
  cases hfind : s.find c key with
  | ok a => simp [select_eq_ok_of_find hfind]
  | error other => simp [select_eq_error_of_find hfind]

/-- A choice is refused exactly if the catalog finds nothing for it. -/
theorem exists_select_eq_error_iff :
    (∃ cause, s.select c key = .error cause) ↔ s.catalog.find? c key = none := by
  simp only [select_eq_error_iff]
  exact exists_find_eq_error_iff

/-- A choice that is made is that of the artifact that the catalog finds. -/
theorem exists_find?_of_select {made : Session × ProxyOutcome × List Event}
    (h : s.select c key = .ok made) :
    ∃ a, s.catalog.find? c key = some a ∧ made = s.choose c a := by
  cases hfind : s.find c key with
  | ok a =>
    rw [select_eq_ok_of_find hfind] at h
    exact ⟨a, find_eq_ok_iff.1 hfind, (Except.ok.inj h).symm⟩
  | error cause =>
    rw [select_eq_error_of_find hfind] at h
    contradiction

/-- A refused choice changes nothing and tells nothing. -/
theorem perform_select_of_error {cause : SelectionError} (h : s.select c key = .error cause) :
    s.perform (.select c key) = (s, .refused cause, []) := by
  simp only [perform, h]

/-- A choice that is made is carried out as it is. -/
theorem perform_select_of_ok {s' : Session} {outcome : ProxyOutcome} {events : List Event}
    (h : s.select c key = .ok (s', outcome, events)) :
    s.perform (.select c key) = (s', .selected outcome, events) := by
  simp only [perform, h]

/-! ## The effect of a choice -/

/-- A choice fails exactly if the catalog finds nothing for it. The cause says that the component is
absent, or that none of its artifacts, if there are any, has the text of the key. A choice that
fails leaves the whole session as it was and tells nothing. A choice that succeeds changes nothing
but the selection: it selects what was found and leaves the other components alone, except that an
engine may bring its proxy. -/
theorem select_effect (s : Session) (c : Component) (key : Key) :
    ((∃ cause, s.select c key = .error cause) ↔ s.catalog.find? c key = none) ∧
    (∀ cause, s.select c key = .error cause ↔
      (s.catalog.artifacts? c = none ∧ cause = .componentNotInCatalog c.name) ∨
      ∃ artifacts, s.catalog.artifacts? c = some artifacts ∧
        (∀ a ∈ artifacts, a.key.text ≠ key.text) ∧ cause = .unknownArtifact c.name key.text) ∧
    (∀ cause, s.select c key = .error cause →
      s.perform (.select c key) = (s, .refused cause, [])) ∧
    ∀ s' outcome events, s.select c key = .ok (s', outcome, events) →
      s.perform (.select c key) = (s', .selected outcome, events) ∧
      s' = { s with selection := s'.selection } ∧
      ∃ a, s.catalog.find? c key = some a ∧ s'.selection.get? c = some a ∧
        (c ≠ .core → outcome = .unchanged ∧
          ∀ d, d ≠ c → s'.selection.get? d = s.selection.get? d) ∧
        (c = .core → ∀ d, d ≠ .core → d ≠ .proxy →
          s'.selection.get? d = s.selection.get? d) := by
  refine ⟨exists_select_eq_error_iff, fun cause => select_eq_error_iff.trans find_eq_error_iff,
    fun cause => perform_select_of_error, ?_⟩
  intro s' outcome events h
  have hperform := perform_select_of_ok h
  obtain ⟨a, hfound, hmade⟩ := exists_find?_of_select h
  -- What is made is the choice of the artifact that was found.
  have hs' : s' = { s with selection := s.choosing c a } := by
    rw [← choose_fst, ← hmade]
  have houtcome : outcome = s.outcomeOf c a := by
    rw [← choose_outcome, ← hmade]
  subst hs' houtcome
  refine ⟨hperform, rfl, a, hfound, s.get?_choosing_self c a, ?_, ?_⟩
  · -- For a component other than the engine nothing else changes.
    intro hcore
    refine ⟨if_neg hcore, fun d hd => ?_⟩
    exact s.get?_choosing_of_ne a hd.symm fun hboth => hcore hboth.1
  · -- The engine may change the proxy and nothing else.
    rintro rfl d hd hproxy
    exact s.get?_choosing_of_ne a hd.symm fun hboth => hproxy hboth.2

/-- A catalog with two engines of one line, a proxy, and a management server that is known and has
nothing to install. -/
def sparseCatalog : Catalog :=
  ((Catalog.empty.insert .core [⟨"4.1.0", none, "a", .community, 0, .remote⟩,
    ⟨"4.1.2", some "3", "b", .community, 0, .remote⟩]).insert .proxy
    [⟨"4.1.1", none, "p", .community, 0, .remote⟩]).insert .manager []

/-- The same key is unknown to a component that is there without artifacts and names a component
that is absent, and an engine is chosen without a change of its proxy. -/
theorem select_effect_sparse :
    let s := (Session.start sparseCatalog .install .standard).1
    s.perform (.select .manager ⟨"4.1.0", none, "a"⟩) =
        (s, .refused (.unknownArtifact "manager" "4.1.0--a"), []) ∧
      s.perform (.select .console ⟨"4.1.0", none, "a"⟩) =
        (s, .refused (.componentNotInCatalog "console"), []) ∧
      ∃ s' outcome events, s.select .core ⟨"4.1.2", some "3", "b"⟩ = .ok (s', outcome, events) ∧
        s'.selection.get? .core = some ⟨"4.1.2", some "3", "b", .community, 0, .remote⟩ ∧
        s'.selection.get? .manager = s.selection.get? .manager := by
  intro s
  have hcatalog : s.catalog = sparseCatalog := by rfl
  obtain ⟨-, hcause, hkept, -⟩ := select_effect s .manager ⟨"4.1.0", none, "a"⟩
  -- The management server is in the catalog without artifacts, so no text is that of the key.
  have hunknown : s.select .manager ⟨"4.1.0", none, "a"⟩ =
      .error (.unknownArtifact "manager" "4.1.0--a") :=
    (hcause _).2 (.inr ⟨[], by rw [hcatalog]; rfl, (fun _ h => nomatch h), by decide⟩)
  obtain ⟨-, hcause', hkept', -⟩ := select_effect s .console ⟨"4.1.0", none, "a"⟩
  -- The console is not in the catalog.
  have habsent : s.select .console ⟨"4.1.0", none, "a"⟩ =
      .error (.componentNotInCatalog "console") :=
    (hcause' _).2 (.inl ⟨by rw [hcatalog]; rfl, rfl⟩)
  refine ⟨hkept _ hunknown, hkept' _ habsent, ?_⟩
  obtain ⟨-, -, -, hmade⟩ := select_effect s .core ⟨"4.1.2", some "3", "b"⟩
  -- The second engine is found, and its choice leaves the management server.
  have hfound : s.catalog.find? .core ⟨"4.1.2", some "3", "b"⟩ =
      some ⟨"4.1.2", some "3", "b", .community, 0, .remote⟩ := by
    rw [hcatalog]
    decide +kernel
  have hselect := select_eq_ok_of_find (find_eq_ok_iff.2 hfound)
  obtain ⟨-, -, a, ha, hchosen, -, hothers⟩ := hmade _ _ _ hselect
  obtain rfl : _ = a := Option.some.inj (hfound.symm.trans ha)
  exact ⟨_, _, _, hselect, hchosen, hothers rfl .manager (by decide) (by decide)⟩

/-! ## Runs without refused choices -/

/-- In this turn a choice was refused. -/
def Turn.isRefused (t : Turn) : Bool :=
  match t.answer with
  | .refused _ => true
  | _ => false

/-- The actions of a run other than its refused choices. -/
def accepted (s : Session) (actions : List Action) : List Action :=
  ((s.history actions).filter (!·.isRefused)).map Turn.action

/-- An action that is refused changes nothing and tells nothing. -/
theorem perform_of_isRefused {action : Action} (h : (s.turn action).isRefused = true) :
    (s.perform action).1 = s ∧ (s.turn action).events = [] := by
  cases action with
  | select c key =>
    cases hselect : s.select c key with
    | ok made =>
      unfold turn at h
      rw [perform_select_of_ok hselect] at h
      contradiction
    | error cause =>
      unfold turn
      rw [perform_select_of_error hselect]
      exact ⟨rfl, rfl⟩
  | setActive active => contradiction
  | setFindings findings => contradiction
  | evaluate => contradiction

section Cons

variable {action : Action} (actions : List Action)

/-- The turns after a refused choice are those of a run without it. -/
theorem filter_history_of_isRefused (h : (s.turn action).isRefused = true) :
    (s.history (action :: actions)).filter (!·.isRefused) =
      (s.history actions).filter (!·.isRefused) := by
  have hsame : (s.perform action).1 = s := (perform_of_isRefused h).1
  rw [history_cons, List.filter_cons_of_neg (by simp [h]), hsame]

/-- The turns after another action are those of a run after it. -/
theorem filter_history_of_not_isRefused (h : (s.turn action).isRefused = false) :
    (s.history (action :: actions)).filter (!·.isRefused) =
      s.turn action :: ((s.perform action).1.history actions).filter (!·.isRefused) := by
  rw [history_cons, List.filter_cons_of_pos (by simp [h])]

end Cons

/-- Refused turns tell nothing, so they may be left out of what is told. -/
theorem told_filter_history (s : Session) (actions : List Action) :
    told ((s.history actions).filter (!·.isRefused)) = told (s.history actions) := by
  induction actions generalizing s with
  | nil => rfl
  | cons action actions ih =>
    have htold : told (s.history (action :: actions)) =
        (s.turn action).events ++ told ((s.perform action).1.history actions) := rfl
    cases hrefused : (s.turn action).isRefused with
    | true =>
      obtain ⟨hsame, hevents⟩ := perform_of_isRefused hrefused
      rw [filter_history_of_isRefused actions hrefused, ih, htold, hsame, hevents]
      rfl
    | false =>
      rw [filter_history_of_not_isRefused actions hrefused, htold, ← ih]
      rfl

/-- A run without its refused choices has the other turns of the run, leads to the same session and
tells the same. -/
theorem run_accepted (s : Session) (actions : List Action) :
    s.history (s.accepted actions) = (s.history actions).filter (!·.isRefused) ∧
      s.after (s.accepted actions) = s.after actions ∧
      told (s.history (s.accepted actions)) = told (s.history actions) := by
  have hrun : s.history (s.accepted actions) = (s.history actions).filter (!·.isRefused) ∧
      s.after (s.accepted actions) = s.after actions := by
    unfold accepted
    induction actions generalizing s with
    | nil => exact ⟨rfl, rfl⟩
    | cons action actions ih =>
      cases hrefused : (s.turn action).isRefused with
      | true =>
        -- The session does not move, so that the run goes on as it would without the action.
        have hsame : (s.perform action).1 = s := (perform_of_isRefused hrefused).1
        rw [filter_history_of_isRefused actions hrefused, after_cons, hsame]
        exact ih s
      | false =>
        obtain ⟨hhistory, hafter⟩ := ih (s.perform action).1
        rw [filter_history_of_not_isRefused actions hrefused, List.map_cons, after_cons]
        exact ⟨congrArg (s.turn action :: ·) hhistory, hafter⟩
  refine ⟨hrun.1, hrun.2, ?_⟩
  rw [hrun.1, told_filter_history]

end Session

end Rollout
