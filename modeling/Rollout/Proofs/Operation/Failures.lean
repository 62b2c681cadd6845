import Rollout.Proofs.Catalog.Normalize
import Rollout.Proofs.Operation.Draft
import Rollout.Proofs.Operation.Load

/-!
# Which failures are told

A failure is told if an event of the run speaks of it (`Reported`). Asking the mirrors tells each of
its failures, and so does fetching the listing, since what comes after the polling tells how it has
failed. Where a plan leaves a failure to the part that it came from, that part has to tell it
(`Progress.tellsFailures_proceed`).

Two failures are left to a part that tells nothing. A listing that has been fetched and of which no
catalog can be made ends loading without a word, and a draft is discarded by two questions of which
neither tells that it has failed. These are the only ones (`failures_told`).
-/

namespace Rollout.Operation

open Service

variable {α β σ : Type} {answer : Responder σ} {config : Config} {flow : Flow}
  {cancel : Option Nat} {limit now : Nat} {state : σ}

/-- An event of the history tells of the failure. -/
def Reported (history : List Happening) (e : Error) : Prop :=
  ∃ event ∈ events history, event.reports e.failure = true

instance (history : List Happening) (e : Error) : Decidable (Reported history e) :=
  inferInstanceAs (Decidable (∃ event ∈ events history, event.reports e.failure = true))

/-- No event of the history tells of any failure. -/
def Unreported (history : List Happening) : Prop :=
  ∀ event ∈ events history, ∀ failure, event.reports failure = false

/-- A failure is told in two histories one after the other if it is told in one of them. -/
theorem reported_append {first rest : List Happening} {e : Error} :
    Reported (first ++ rest) e ↔ Reported first e ∨ Reported rest e := by
  simp only [Reported, events_append, List.mem_append, or_and_right, exists_or]

/-- Two histories one after the other tell of no failure if neither does. -/
theorem unreported_append {first rest : List Happening} :
    Unreported (first ++ rest) ↔ Unreported first ∧ Unreported rest := by
  simp only [Unreported, events_append, List.mem_append, or_imp, forall_and]

/-- Nothing is told where nothing happens. -/
@[simp] theorem unreported_nil : Unreported [] :=
  fun _ h => nomatch h

/-- A question that is asked tells of no failure. -/
@[simp] theorem unreported_singleton_asked {request : Request} : Unreported [.asked request] :=
  fun _ h => nomatch h

/-- An event that is told tells of no failure if it reports none. -/
@[simp] theorem unreported_singleton_told {event : Event} :
    Unreported [.told event] ↔ ∀ failure, event.reports failure = false := by
  simp [Unreported, events]

/-- Where no failure is told, none is. -/
theorem Unreported.not_reported {history : List Happening} (h : Unreported history) (e : Error) :
    ¬ Reported history e := by
  rintro ⟨event, hmem, hreports⟩
  rw [h event hmem] at hreports
  contradiction

/-- Polling tells of no failure. -/
theorem unreported_polled (request : Request) (source : Source) (delay : UInt64) :
    Unreported (polled answer cancel limit request source delay now state).history := by
  intro event hmem failure
  obtain ⟨attempt, rfl⟩ := exists_retrying_of_mem_polled hmem
  cases source <;> rfl

namespace Progress

/-- A failure with which the run has ended is told in it. -/
def TellsFailures (p : Progress σ (Except Error α)) : Prop :=
  ∀ e, p.Fails e → Reported p.history e

/-- What happened before a run does not keep it from telling its failures. -/
theorem TellsFailures.after {p : Progress σ (Except Error α)} (h : p.TellsFailures)
    (history : List Happening) : (p.after history).TellsFailures :=
  fun e hfails => reported_append.2 (.inr (h e hfails))

/-- A run that has ended well has no failure to tell. -/
theorem tellsFailures_ended_ok (history : List Happening) (x : α) :
    (ended history (.ok x : Except Error α) now state).TellsFailures :=
  fun _ hfails => nomatch fails_ended.1 hfails

/-- What goes on after a success tells its failures if the parts after the success do, and if the
failure of the first part is told, by that part or after it. -/
theorem tellsFailures_proceed {p : Progress σ (Except Error α)} {failed : Error → List Event}
    {f : α → Nat → σ → Progress σ (Except Error β)}
    (hp : ∀ e, p.Fails e → Reported p.history e ∨ Reported ((failed e).map .told) e)
    (hf : ∀ x now state, p.outcome = some (.ok x, now, state) → (f x now state).TellsFailures) :
    (p.proceed failed f).TellsFailures := by
  intro e hfails
  obtain ⟨history, outcome⟩ := p
  rcases outcome with _ | ⟨e' | x, now, state⟩
  · -- A first part that has not ended has not failed.
    obtain ⟨_, _, h⟩ := hfails
    contradiction
  · -- It has failed, so the whole has failed with its failure and tells what it and `failed` tell.
    obtain ⟨_, _, h⟩ := hfails
    cases h
    exact reported_append.2 (hp e ⟨now, state, rfl⟩)
  · -- It has succeeded, and the failure is one of what follows.
    exact (hf x now state rfl).after history e hfails

/-- What goes on after a success tells of no failure if neither its parts nor what is told of a
failure between them do. -/
theorem unreported_proceed {p : Progress σ (Except Error α)} {failed : Error → List Event}
    {f : α → Nat → σ → Progress σ (Except Error β)} (hp : Unreported p.history)
    (hfailed : ∀ e, p.Fails e → Unreported ((failed e).map .told))
    (hf : ∀ x now state, p.outcome = some (.ok x, now, state) →
      Unreported (f x now state).history) :
    Unreported (p.proceed failed f).history := by
  obtain ⟨history, outcome⟩ := p
  rcases outcome with _ | ⟨e | x, now, state⟩
  · exact hp
  · exact unreported_append.2 ⟨hp, hfailed e ⟨now, state, rfl⟩⟩
  · exact unreported_append.2 ⟨hp, hf x now state rfl⟩

end Progress

/-- The history of a run that begins by telling an event tells it. -/
theorem mem_events_after_told (event : Event) (p : Progress σ α) :
    event ∈ events (p.after [.told event]).history :=
  List.mem_cons_self

/-! ## Loading -/

/-- Asking the mirrors tells its failures, with an event of its own for them. -/
theorem tellsFailures_diagnose (missing : List Component) :
    ((diagnose config missing).progress answer cancel limit now state).TellsFailures := by
  rw [progress_diagnose]
  refine Progress.TellsFailures.after (Progress.tellsFailures_proceed (fun e _ => .inr ?_)
    fun _ _ _ _ => Progress.tellsFailures_ended_ok _ _) _
  exact ⟨.diagnosticsFailed e.failure, List.mem_cons_self, decide_eq_true rfl⟩

/-- Explaining what a selection lacks fails only in asking the mirrors. -/
theorem tellsFailures_explain (s : Session) :
    ((explain config s).progress answer cancel limit now state).TellsFailures := by
  cases hready : s.isReady with
  | true =>
    rw [progress_explain_of_isReady hready]
    exact Progress.tellsFailures_ended_ok _ _
  | false =>
    rw [progress_explain_of_not_isReady hready]
    exact Progress.TellsFailures.after (Progress.tellsFailures_proceed
      (fun e hfails => .inl (tellsFailures_diagnose _ e hfails))
      fun _ _ _ _ => Progress.tellsFailures_ended_ok _ _) _

/-- Fetching the listing tells its failures, with an event of its own for them. -/
theorem tellsFailures_fetchListing :
    ((fetchListing config).progress answer cancel limit now state).TellsFailures := by
  rw [progress_fetchListing]
  refine Progress.TellsFailures.after (Progress.tellsFailures_proceed (fun e _ => .inr ?_)
    fun _ _ _ _ => Progress.tellsFailures_ended_ok _ _) _
  exact ⟨.fetchFailed e.failure, List.mem_cons_self, decide_eq_true rfl⟩

/-- When the listing has been fetched nothing has been told as a failure. -/
theorem unreported_fetchListing {offers : List Offer} {t : Nat} {s : σ}
    (h : ((fetchListing config).progress answer cancel limit now state).outcome =
      some (.ok offers, t, s)) :
    Unreported ((fetchListing config).progress answer cancel limit now state).history := by
  rw [progress_fetchListing] at h ⊢
  rw [Progress.outcome_after, Progress.outcome_proceed_eq_ok_iff] at h
  -- The polling has succeeded, so the event of its failure is not among what was told.
  obtain ⟨_, _, _, hpolled, -⟩ := h
  refine unreported_append.2 ⟨unreported_singleton_told.2 fun _ => rfl, ?_⟩
  refine Progress.unreported_proceed (unreported_polled _ _ _) ?_ fun _ _ _ _ => unreported_nil
  -- A failure of the polling contradicts its success.
  rintro e ⟨_, _, hfails⟩
  rw [hpolled] at hfails
  cases hfails

/-- A listing of which a catalog can be made leads to a session, and only explaining it can fail. -/
theorem tellsFailures_seed {offers : List Offer} {found : Catalog × List String}
    (h : config.readListing offers = .ok found) :
    ((seed config flow offers).progress answer cancel limit now state).TellsFailures := by
  rw [progress_seed_of_ok h]
  exact Progress.TellsFailures.after (Progress.tellsFailures_proceed
    (fun e hfails => .inl (tellsFailures_explain _ e hfails))
    fun _ _ _ _ => Progress.tellsFailures_ended_ok _ _) _

/-- The listing is fetched, and no catalog can be made of it. -/
def Unreadable (answer : Responder σ) (config : Config) (cancel : Option Nat) (limit now : Nat)
    (state : σ) : Prop :=
  ∃ n < limit, ∃ offers cause,
    Fetches (answer .components) config.network.busyRetryDelay.toNat cancel now state n offers ∧
    config.readListing offers = .error cause

/-- What is unreadable is told by how fetching the listing ends. -/
theorem unreadable_iff_outcome : Unreadable answer config cancel limit now state ↔
    ∃ offers cause t s, ((fetchListing config).progress answer cancel limit now state).outcome =
      some (.ok offers, t, s) ∧ config.readListing offers = .error cause := by
  simp only [outcome_fetchListing_eq_ok_iff]
  constructor
  · rintro ⟨n, hn, offers, cause, hfetches, hread⟩
    exact ⟨offers, cause, _, _, ⟨n, hn, hfetches, rfl, rfl⟩, hread⟩
  · rintro ⟨offers, cause, _, _, ⟨n, hn, hfetches, -, -⟩, hread⟩
    exact ⟨n, hn, offers, cause, hfetches, hread⟩

/-- Loading tells its failures if the listing can be read. -/
theorem tellsFailures_load (h : ¬ Unreadable answer config cancel limit now state) :
    ((load config flow).progress answer cancel limit now state).TellsFailures := by
  rw [progress_load]
  refine Progress.TellsFailures.after (Progress.tellsFailures_proceed
    (fun e hfails => .inl (tellsFailures_fetchListing e hfails)) fun offers t s houtcome => ?_) _
  -- The listing that was fetched is readable, so only what follows its reading can still fail.
  cases hread : config.readListing offers with
  | error cause => exact absurd (unreadable_iff_outcome.2 ⟨offers, cause, t, s, houtcome, hread⟩) h
  | ok found => exact tellsFailures_seed hread

/-- Loading a listing that cannot be read tells of no failure. -/
theorem unreported_load (h : Unreadable answer config cancel limit now state) :
    Unreported ((load config flow).progress answer cancel limit now state).history := by
  obtain ⟨offers, cause, t, s, houtcome, hread⟩ := unreadable_iff_outcome.1 h
  rw [progress_load]
  refine unreported_append.2 ⟨unreported_singleton_told.2 fun _ => rfl, ?_⟩
  -- Fetching tells of no failure since it succeeded, and what comes after it is given the listing
  -- that was fetched, of which nothing is made.
  refine Progress.unreported_proceed (unreported_fetchListing houtcome)
    (fun _ _ => unreported_nil) fun offers' t' s' houtcome' => ?_
  obtain rfl : offers = offers' := by
    rw [houtcome] at houtcome'
    cases houtcome'
    rfl
  rw [progress_seed_of_error hread]
  exact unreported_nil

/-! ## Discarding a draft -/

/-- The drafts are listed, and none has the name. -/
def Unlisted (answer : Responder σ) (name : String) (state : σ) : Prop :=
  ∃ drafts, (answer (.deployments "DRAFT") state).1.result = .ok drafts ∧
    ∀ draft ∈ drafts, draft.name ≠ name

/-- Discarding a draft that is not listed tells that it was not found. -/
theorem tellsFailures_discardDraft {name : String} (h : Unlisted answer name state) :
    ((discardDraft name).progress answer cancel limit now state).TellsFailures := by
  obtain ⟨drafts, hlisted, hnone⟩ := h
  rw [progress_discardDraft, progress_question, hlisted]
  refine Progress.TellsFailures.after (Progress.tellsFailures_proceed ?_ ?_) _
  · -- The drafts were listed, so the first question has not failed.
    exact fun e hfails => nomatch Progress.fails_ended.1 hfails
  · -- None of them has the name, so the search is what fails, and it has its own event.
    rintro _ _ _ ⟨⟩ e hfails
    rw [any_name_eq_false_iff.2 hnone] at hfails ⊢
    obtain rfl : Error.operation (.draftNotFound name) = e :=
      Except.error.inj (Progress.fails_ended.1 hfails)
    exact ⟨_, List.mem_cons_self, decide_eq_true rfl⟩

/-- Discarding tells of no failure if the draft is listed, or if listing the drafts fails. -/
theorem unreported_discardDraft {name : String} (h : ¬ Unlisted answer name state) :
    Unreported ((discardDraft name).progress answer cancel limit now state).history := by
  rw [progress_discardDraft]
  refine unreported_append.2 ⟨unreported_singleton_told.2 fun _ => rfl, ?_⟩
  refine Progress.unreported_proceed unreported_singleton_asked (fun _ _ => unreported_nil)
    fun drafts t s hlisted => ?_
  -- The draft is among those that are listed, since otherwise it would be unlisted.
  have hany : drafts.any (·.name == name) = true := by
    by_contra hnone
    exact h ⟨drafts, congrArg Prod.fst (Option.some.inj hlisted),
      any_name_eq_false_iff.1 (Bool.eq_false_iff.2 hnone)⟩
  rw [if_pos hany]
  exact Progress.unreported_proceed unreported_singleton_asked (fun _ _ => unreported_nil)
    fun _ _ _ _ => unreported_singleton_told.2 fun _ => rfl

/-! ## The whole -/

/-- Loading that has failed has told how, unless a listing was fetched of which no catalog can be
made. Discarding a draft that has failed has told how only if the drafts were listed without it; a
listing or a deletion that fails is not told. Both have told in any case that they were begun. This
holds for every service and every cancellation. -/
theorem failures_told (answer : Responder σ) (config : Config) (flow : Flow) (name : String)
    (cancel : Option Nat) (limit now : Nat) (state : σ) :
    (∀ e err, (load config flow).run answer cancel limit now state = some e →
      e.result = .error err →
        .started "load_catalog" ∈ events e.history ∧
        (Reported e.history err ↔ ¬ Unreadable answer config cancel limit now state)) ∧
    ∀ e err, (discardDraft name).run answer cancel limit now state = some e →
      e.result = .error err →
        .started ("discard_draft " ++ name) ∈ events e.history ∧
        (Reported e.history err ↔ Unlisted answer name state) := by
  refine ⟨fun e err hrun herr => ?_, fun e err hrun herr => ?_⟩
  · -- Loading: the history is that of its progress, and whether it tells turns on the listing.
    have hfails := exists_run_error_iff.1 ⟨e, hrun, herr⟩
    rw [history_eq_of_run hrun]
    refine ⟨?_, fun hreported hunreadable => ?_, fun hreadable => ?_⟩
    · rw [progress_load]
      exact mem_events_after_told _ _
    · exact (unreported_load hunreadable).not_reported err hreported
    · exact tellsFailures_load hreadable err hfails
  · -- Discarding: whether the failure is told turns on the draft being listed.
    have hfails := exists_run_error_iff.1 ⟨e, hrun, herr⟩
    rw [history_eq_of_run hrun]
    refine ⟨?_, fun hreported => ?_, fun hunlisted => ?_⟩
    · rw [progress_discardDraft]
      exact mem_events_after_told _ _
    · by_contra hlisted
      exact (unreported_discardDraft hlisted).not_reported err hreported
    · exact tellsFailures_discardDraft hunlisted err hfails

/-- A service that offers an edition that there is not, and cannot delete the draft that it has. -/
def faultyService : Script where
  components := [⟨.ok [⟨"core", [{ Catalog.sampleBuild "4.1.0" none "a" with
    edition := some "trial" }]⟩], 0⟩]
  mirrors := []
  deployments := [⟨.ok [⟨"lab", "DRAFT"⟩], 0⟩]
  delete := [⟨.error (.network (.timeout "/deployments/lab")), 0⟩]
  connection := []

/-- A cancellation before the listing is there is told, and so is a draft that it does not have. -/
theorem failures_told_cancelled :
    (∃ e, (load .standard .install).run Script.responder (some 0) 1 0 faultyService = some e ∧
      e.result = .error .cancelled ∧ Reported e.history .cancelled) ∧
    ∃ e, (discardDraft "old").run Script.responder (some 0) 1 0 faultyService = some e ∧
      e.result = .error (.operation (.draftNotFound "old")) ∧
      Reported e.history (.operation (.draftNotFound "old")) := by
  have htold := failures_told Script.responder .standard .install "old" (some 0) 1 0 faultyService
  -- Under a cancellation at once nothing is fetched, so nothing unreadable is.
  have hreadable : ¬ Unreadable Script.responder .standard (some 0) 1 0 faultyService := by
    rintro ⟨n, -, offers, cause, hfetches, -⟩
    exact Nat.not_lt_zero _ (hfetches.lasts 0 rfl)
  have hunlisted : Unlisted Script.responder "old" faultyService :=
    ⟨[⟨"lab", "DRAFT"⟩], rfl, by decide⟩
  exact ⟨⟨_, rfl, rfl, (htold.1 _ _ rfl rfl).2.2 hreadable⟩,
    ⟨_, rfl, rfl, (htold.2 _ _ rfl rfl).2.2 hunlisted⟩⟩

/-- Its listing and its draft make loading and discarding fail after they have been told to have
begun, and neither failure is told. -/
theorem failures_untold :
    (∃ e err, (load .standard .install).run Script.responder none 1 0 faultyService = some e ∧
      e.result = .error err ∧ .started "load_catalog" ∈ events e.history ∧
      ¬ Reported e.history err) ∧
    ∃ e err, (discardDraft "lab").run Script.responder none 1 0 faultyService = some e ∧
      e.result = .error err ∧ .started "discard_draft lab" ∈ events e.history ∧
      ¬ Reported e.history err := by
  refine ⟨⟨_, _, rfl, rfl, ?_, ?_⟩, ⟨_, _, rfl, rfl, ?_, ?_⟩⟩ <;> decide +kernel

end Rollout.Operation
