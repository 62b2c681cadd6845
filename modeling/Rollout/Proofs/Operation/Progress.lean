import Rollout.Operation
import Rollout.Proofs.Service.Polling

/-!
# How far a run has come

A run that polls a service which stays busy does not end, and still events are told in it and
questions are put. `Operation.progress` is what has happened in a run in which no polling puts more
than a number of questions, and its outcome if it has ended by then. Of a run that has ended it is
the whole history (`Operation.run_eq_ended?`).

Progress composes: what happens in a plan that goes on with another is what happens in the first and
then, if that has ended, in the second (`Operation.progress_bind`). So the progress of an operation
is put together from those of its parts, and with it what the operation asks for (`requests`), what
it succeeds with (`Progress.Yields`) and whether it tells so (`Progress.Announces`).
-/

namespace Rollout.Operation

open Service

variable {α β σ : Type} {answer : Responder σ} {cancel : Option Nat} {limit now : Nat} {state : σ}

/-- What has happened in a run, and with what, when and in which state of the service it has ended,
if it has. -/
structure Progress (σ α : Type) where
  history : List Happening
  outcome : Option (α × Nat × σ)

namespace Progress

/-- A run that has ended at once. -/
def ended (history : List Happening) (result : α) (now : Nat) (state : σ) : Progress σ α :=
  ⟨history, some (result, now, state)⟩

/-- The same progress with more history before it. -/
def after (history : List Happening) (p : Progress σ α) : Progress σ α :=
  { p with history := history ++ p.history }

/-- Goes on with a run that begins with the result where the first has ended. -/
def bind (p : Progress σ α) (f : α → Nat → σ → Progress σ β) : Progress σ β :=
  match p.outcome with
  | none => ⟨p.history, none⟩
  | some (result, now, state) => (f result now state).after p.history

/-- What goes on after a run that has ended is the next run, with the history of the first before
it. -/
@[simp] theorem bind_ended (history : List Happening) (result : α) (now : Nat) (state : σ)
    (f : α → Nat → σ → Progress σ β) :
    (ended history result now state).bind f = (f result now state).after history :=
  rfl

/-- Where the first run has ended, the next one begins. -/
theorem bind_of_some {p : Progress σ α} {f : α → Nat → σ → Progress σ β} {result : α}
    (h : p.outcome = some (result, now, state)) :
    p.bind f = (f result now state).after p.history := by
  unfold bind
  rw [h]

/-- Where the first run has not ended, nothing else happens. -/
theorem bind_of_none {p : Progress σ α} {f : α → Nat → σ → Progress σ β} (h : p.outcome = none) :
    p.bind f = ⟨p.history, none⟩ := by
  unfold bind
  rw [h]

/-- What goes on only adds to the history. -/
theorem history_le_bind (p : Progress σ α) (f : α → Nat → σ → Progress σ β) :
    p.history <+: (p.bind f).history := by
  obtain ⟨history, outcome⟩ := p
  cases outcome with
  | none => exact List.prefix_rfl
  | some x => exact List.prefix_append _ _

/-- What happened before does not change how a run goes on. -/
@[simp] theorem bind_after (history : List Happening) (p : Progress σ α)
    (f : α → Nat → σ → Progress σ β) : (p.after history).bind f = (p.bind f).after history := by
  obtain ⟨history', outcome⟩ := p
  cases outcome with
  | none => rfl
  | some x => simp [bind, after]

/-- Going on twice is going on with what goes on. -/
@[simp] theorem bind_bind {γ : Type} (p : Progress σ α) (f : α → Nat → σ → Progress σ β)
    (g : β → Nat → σ → Progress σ γ) :
    (p.bind f).bind g = p.bind fun result now state => (f result now state).bind g := by
  obtain ⟨history, outcome⟩ := p
  cases outcome with
  | none => rfl
  | some x => exact bind_after _ _ _

/-- What happened before does not change the outcome. -/
@[simp] theorem outcome_after (history : List Happening) (p : Progress σ α) :
    (p.after history).outcome = p.outcome :=
  rfl

/-- A run that goes on with another ends exactly if both do. -/
theorem outcome_bind_eq_some_iff {p : Progress σ α} {f : α → Nat → σ → Progress σ β}
    {x : β × Nat × σ} : (p.bind f).outcome = some x ↔
      ∃ result now state, p.outcome = some (result, now, state) ∧
        (f result now state).outcome = some x := by
  obtain ⟨history, outcome⟩ := p
  cases outcome with
  | none => simp [bind]
  | some y =>
    obtain ⟨result, now, state⟩ := y
    show (f result now state).outcome = some x ↔ _
    constructor
    · exact fun h => ⟨result, now, state, rfl, h⟩
    · rintro ⟨_, _, _, heq, h⟩
      cases heq
      exact h

/-- The run has ended with this success. -/
def Yields (p : Progress σ (Except Error α)) (x : α) : Prop :=
  ∃ now state, p.outcome = some (.ok x, now, state)

/-- What happened before does not change a success. -/
@[simp] theorem yields_after {history : List Happening} {p : Progress σ (Except Error α)} {x : α} :
    (p.after history).Yields x ↔ p.Yields x :=
  Iff.rfl

/-- A run that has ended has the success that it has ended with. -/
@[simp] theorem yields_ended {history : List Happening} {result : Except Error α} {x : α} :
    (ended history result now state).Yields x ↔ result = .ok x := by
  simp [Yields, ended]

/-- Goes on after a success, and ends with a failure, telling some events of it. -/
def proceed (p : Progress σ (Except Error α)) (failed : Error → List Event)
    (f : α → Nat → σ → Progress σ (Except Error β)) : Progress σ (Except Error β) :=
  p.bind fun result now state => match result with
    | .error e => ended ((failed e).map .told) (.error e) now state
    | .ok x => f x now state

/-- After a success the run goes on. -/
@[simp] theorem proceed_ended_ok (history : List Happening) (x : α) (now : Nat) (state : σ)
    (failed : Error → List Event) (f : α → Nat → σ → Progress σ (Except Error β)) :
    (ended history (.ok x) now state).proceed failed f = (f x now state).after history :=
  rfl

/-- After a failure the run ends, when it has been told. -/
@[simp] theorem proceed_ended_error (history : List Happening) (e : Error) (now : Nat) (state : σ)
    (failed : Error → List Event) (f : α → Nat → σ → Progress σ (Except Error β)) :
    (ended history (.error e) now state).proceed failed f =
      ended (history ++ (failed e).map .told) (.error e) now state :=
  rfl

/-- What goes on after a success is a success exactly if both parts are. -/
theorem outcome_proceed_eq_ok_iff {p : Progress σ (Except Error α)} {failed : Error → List Event}
    {f : α → Nat → σ → Progress σ (Except Error β)} {y : β} {t : Nat} {s : σ} :
    (p.proceed failed f).outcome = some (.ok y, t, s) ↔
      ∃ x now state, p.outcome = some (.ok x, now, state) ∧
        (f x now state).outcome = some (.ok y, t, s) := by
  unfold proceed
  rw [outcome_bind_eq_some_iff]
  constructor
  · rintro ⟨result, now, state, hp, hf⟩
    cases result with
    | error e => cases hf
    | ok x => exact ⟨x, now, state, hp, hf⟩
  · rintro ⟨x, now, state, hp, hf⟩
    exact ⟨.ok x, now, state, hp, hf⟩

/-- What goes on after a success has the success of its second part. -/
theorem yields_proceed_iff {p : Progress σ (Except Error α)} {failed : Error → List Event}
    {f : α → Nat → σ → Progress σ (Except Error β)} {y : β} :
    (p.proceed failed f).Yields y ↔ ∃ x now state, p.outcome = some (.ok x, now, state) ∧
      (f x now state).Yields y := by
  unfold Yields
  simp only [outcome_proceed_eq_ok_iff]
  constructor
  · rintro ⟨t, s, x, now, state, hp, hf⟩
    exact ⟨x, now, state, hp, t, s, hf⟩
  · rintro ⟨x, now, state, hp, t, s, hf⟩
    exact ⟨t, s, x, now, state, hp, hf⟩

/-- The run has ended with this failure. -/
def Fails (p : Progress σ (Except Error α)) (e : Error) : Prop :=
  ∃ now state, p.outcome = some (.error e, now, state)

/-- What happened before does not change a failure. -/
@[simp] theorem fails_after {history : List Happening} {p : Progress σ (Except Error α)}
    {e : Error} : (p.after history).Fails e ↔ p.Fails e :=
  Iff.rfl

/-- A run that has ended has the failure that it has ended with. -/
@[simp] theorem fails_ended {history : List Happening} {result : Except Error α} {e : Error} :
    (ended history result now state).Fails e ↔ result = .error e := by
  simp [Fails, ended]

/-- What goes on after a success fails exactly if one of its parts does. -/
theorem fails_proceed_iff {p : Progress σ (Except Error α)} {failed : Error → List Event}
    {f : α → Nat → σ → Progress σ (Except Error β)} {e : Error} :
    (p.proceed failed f).Fails e ↔ p.Fails e ∨
      ∃ x now state, p.outcome = some (.ok x, now, state) ∧ (f x now state).Fails e := by
  obtain ⟨history, outcome⟩ := p
  rcases outcome with _ | ⟨e' | x, now, state⟩
  · -- A first part that has not ended has not failed, and nothing goes on after it.
    refine iff_of_false (fun ⟨_, _, h⟩ => nomatch h) ?_
    rintro (⟨_, _, h⟩ | ⟨_, _, _, h, -⟩) <;> exact nomatch h
  · constructor
    · -- The first part has failed, and the whole with it.
      rintro ⟨_, _, h⟩
      cases h
      exact .inl ⟨now, state, rfl⟩
    · rintro (⟨_, _, h⟩ | ⟨_, _, _, h, -⟩)
      · cases h
        exact ⟨now, state, rfl⟩
      · cases h
  · constructor
    · -- It has succeeded, so the failure is that of what goes on.
      exact fun h => .inr ⟨x, now, state, rfl, h⟩
    · rintro (⟨_, _, h⟩ | ⟨_, _, _, heq, h⟩)
      · cases h
      · cases heq
        exact h

/-- How the run has ended, if it has. -/
def ended? (p : Progress σ α) : Option (Ended σ α) :=
  p.outcome.map fun (result, now, state) => ⟨result, p.history, now, state⟩

/-- What happened before is in the history of a run that has ended. -/
theorem ended?_after (history : List Happening) (p : Progress σ α) :
    (p.after history).ended? = p.ended?.map (Ended.after history) := by
  obtain ⟨history', outcome⟩ := p
  cases outcome <;> rfl

/-- A run that goes on has ended when both parts have, with both their histories. -/
theorem ended?_bind (p : Progress σ α) (f : α → Nat → σ → Progress σ β) :
    (p.bind f).ended? = p.ended?.bind fun e =>
      (f e.result e.now e.state).ended?.map (Ended.after e.history) := by
  obtain ⟨history, outcome⟩ := p
  cases outcome with
  | none => rfl
  | some x => exact ended?_after _ _

/-- Going on with nothing changes nothing. -/
@[simp] theorem bind_ended_nil (p : Progress σ α) : p.bind (ended []) = p := by
  obtain ⟨history, outcome⟩ := p
  cases outcome with
  | none => rfl
  | some x => simp [bind, after, ended]

end Progress

/-- How far polling has come within a number of questions. -/
def polled (answer : Responder σ) (cancel : Option Nat) (limit : Nat) (request : Request)
    (source : Source) (delay : UInt64) (now : Nat) (state : σ) :
    Progress σ (Except Error request.Answer) where
  history := (stepsWithin (answer request) delay.toNat cancel limit 0 now state).filterMap
    (happening? request source delay)
  outcome := (Service.poll (answer request) delay.toNat cancel limit 0 now state).map fun p =>
    (p.result, p.now, p.state)

/-- How far a run has come in which no polling puts more than `limit` questions. -/
def progress (answer : Responder σ) (cancel : Option Nat) (limit : Nat) :
    Operation α → (now : Nat) → σ → Progress σ α
  | done result, now, state => .ended [] result now state
  | tell event next, now, state => (next.progress answer cancel limit now state).after [.told event]
  | ask request next, now, state =>
    let (reply, state) := answer request state
    ((next reply.result).progress answer cancel limit (now + reply.took) state).after
      [.asked request]
  | poll request source delay next, now, state =>
    (polled answer cancel limit request source delay now state).bind fun result =>
      (next result).progress answer cancel limit

/-- Polling that has ended has come to its end. -/
theorem ended?_polled (request : Request) (source : Source) (delay : UInt64) :
    (polled answer cancel limit request source delay now state).ended? =
      (Service.poll (answer request) delay.toNat cancel limit 0 now state).map fun p =>
        ⟨p.result, p.steps.filterMap (happening? request source delay), p.now, p.state⟩ := by
  unfold polled stepsWithin Progress.ended?
  cases Service.poll (answer request) delay.toNat cancel limit 0 now state <;> rfl

/-- A run ends exactly if its progress has an outcome, and then its history is what has happened. -/
theorem run_eq_ended? (op : Operation α) :
    op.run answer cancel limit now state = (op.progress answer cancel limit now state).ended? := by
  induction op generalizing now state with
  | done result => rfl
  | tell event next ih =>
    rw [run, progress, Progress.ended?_after, ih]
  | ask request next ih =>
    show Option.map _ (run _ _ _ _ _ _) = _
    rw [progress, Progress.ended?_after, ih]
  | poll request source delay next ih =>
    rw [run, progress, Progress.ended?_bind, ended?_polled, Option.bind_map]
    congr 1
    funext p
    rw [ih]
    rfl

/-! ## The parts of a plan -/

/-- A plan that goes on with another makes the progress of the first and then of the second. -/
theorem progress_bind (op : Operation α) (f : α → Operation β) :
    (op >>= f).progress answer cancel limit now state =
      (op.progress answer cancel limit now state).bind fun result =>
        (f result).progress answer cancel limit := by
  show (op.bind f).progress answer cancel limit now state = _
  -- The plan that comes after moves into the plan, as it does in the progress.
  induction op generalizing now state with
  | done result => rfl
  | tell event next ih =>
    rw [Operation.bind, progress, progress, Progress.bind_after, ih]
  | ask request next ih =>
    show Progress.after _ (progress _ _ _ _ _ _) = _
    rw [progress, Progress.bind_after, ih]
  | poll request source delay next ih =>
    rw [Operation.bind, progress, progress, Progress.bind_bind]
    congr 1
    funext result now state
    exact ih result

/-- Events are told one after another, and no time passes. -/
theorem progress_tellAll (events : List Event) :
    (tellAll events).progress answer cancel limit now state =
      .ended (events.map .told) () now state := by
  induction events with
  | nil => rfl
  | cons event events ih =>
    show (progress _ _ _ (tellAll events) _ _).after [.told event] = _
    rw [ih]
    rfl

/-- Events that are told before a plan come first. -/
theorem progress_tellAll_bind (events : List Event) (op : Operation α) :
    (tellAll events >>= fun _ => op).progress answer cancel limit now state =
      (op.progress answer cancel limit now state).after (events.map .told) := by
  rw [progress_bind, progress_tellAll, Progress.bind_ended]

/-- A plan that ends with the failure of the plan before it, after telling of it, goes on only after
a success. -/
theorem progress_bind_eq_proceed {op : Operation (Except Error α)}
    {g : Except Error α → Operation (Except Error β)} {failed : Error → List Event}
    {f : α → Nat → σ → Progress σ (Except Error β)}
    (herror : ∀ e now state, (g (.error e)).progress answer cancel limit now state =
      .ended ((failed e).map .told) (.error e) now state)
    (hok : ∀ x now state, (g (.ok x)).progress answer cancel limit now state = f x now state) :
    (op >>= g).progress answer cancel limit now state =
      (op.progress answer cancel limit now state).proceed failed f := by
  rw [progress_bind]
  unfold Progress.proceed
  congr 1
  funext result now state
  cases result with
  | error e => exact herror e now state
  | ok x => exact hok x now state

/-- A plan that only polls comes as far as its polling. -/
theorem progress_polling (request : Request) (source : Source) (delay : UInt64) :
    (polling request source delay).progress answer cancel limit now state =
      polled answer cancel limit request source delay now state :=
  Progress.bind_ended_nil _

/-- A question is put, and the run has ended when its answer is there. -/
theorem progress_question (request : Request) :
    (question request).progress answer cancel limit now state =
      .ended [.asked request] (answer request state).1.result
        (now + (answer request state).1.took) (answer request state).2 :=
  rfl

/-- The history of a run that has ended is what has happened. -/
theorem history_eq_of_run {op : Operation α} {e : Ended σ α}
    (h : op.run answer cancel limit now state = some e) :
    e.history = (op.progress answer cancel limit now state).history := by
  rw [run_eq_ended?] at h
  obtain ⟨x, -, rfl⟩ := Option.map_eq_some_iff.1 h
  rfl

/-- Polling that has ended has ended with more questions too. -/
theorem polled_eq_of_outcome {limit' : Nat} {request : Request} {source : Source} {delay : UInt64}
    {x : Except Error request.Answer × Nat × σ} (hle : limit ≤ limit')
    (h : (polled answer cancel limit request source delay now state).outcome = some x) :
    polled answer cancel limit' request source delay now state =
      polled answer cancel limit request source delay now state := by
  obtain ⟨p, hp, -⟩ := Option.map_eq_some_iff.1 h
  unfold polled
  rw [poll_mono hle hp, hp, stepsWithin_of_poll hp, stepsWithin_of_poll (poll_mono hle hp)]

/-- With more questions to each polling more may happen, after what has happened. -/
theorem history_progress_mono {limit' : Nat} (hle : limit ≤ limit') (op : Operation α) :
    (op.progress answer cancel limit now state).history <+:
      (op.progress answer cancel limit' now state).history := by
  induction op generalizing now state with
  | done result => exact List.prefix_rfl
  | tell event next ih => exact (List.prefix_append_right_inj [_]).2 ih
  | ask request next ih => exact (List.prefix_append_right_inj [_]).2 (ih _)
  | poll request source delay next ih =>
    rw [progress, progress]
    cases houtcome : (polled answer cancel limit request source delay now state).outcome with
    | some x =>
      -- Polling that has ended has ended in the same way with more questions.
      obtain ⟨result, now', state'⟩ := x
      rw [polled_eq_of_outcome hle houtcome, Progress.bind_of_some houtcome,
        Progress.bind_of_some houtcome]
      exact (List.prefix_append_right_inj _).2 (ih result)
    | none =>
      -- Polling that has not ended may go on, and what goes on after it only adds.
      rw [Progress.bind_of_none houtcome]
      have hpolled : (polled answer cancel limit request source delay now state).history <+:
          (polled answer cancel limit' request source delay now state).history :=
        (stepsWithin_mono hle).filterMap _
      exact hpolled.trans (Progress.history_le_bind _ _)

/-- A run ends with what its progress ends with. -/
theorem exists_run_result_iff {op : Operation α} {result : α} :
    (∃ e, op.run answer cancel limit now state = some e ∧ e.result = result) ↔
      ∃ t s, (op.progress answer cancel limit now state).outcome = some (result, t, s) := by
  rw [run_eq_ended?]
  unfold Progress.ended?
  constructor
  · rintro ⟨e, he, hresult⟩
    obtain ⟨⟨result', t, s⟩, houtcome, rfl⟩ := Option.map_eq_some_iff.1 he
    replace hresult : result' = result := hresult
    exact ⟨t, s, by rw [houtcome, hresult]⟩
  · rintro ⟨t, s, houtcome⟩
    rw [houtcome]
    exact ⟨_, rfl, rfl⟩

/-- A run ends with a success exactly if its progress does. -/
theorem exists_run_iff {op : Operation (Except Error α)} {x : α} :
    (∃ e, op.run answer cancel limit now state = some e ∧ e.result = .ok x) ↔
      (op.progress answer cancel limit now state).Yields x :=
  exists_run_result_iff

/-- A run ends with a failure exactly if its progress does. -/
theorem exists_run_error_iff {op : Operation (Except Error α)} {err : Error} :
    (∃ e, op.run answer cancel limit now state = some e ∧ e.result = .error err) ↔
      (op.progress answer cancel limit now state).Fails err :=
  exists_run_result_iff

/-- Polling ends with an answer exactly if that is fetched within the questions that it has. -/
theorem outcome_polled_eq_ok_iff {request : Request} {source : Source} {delay : UInt64}
    {x : request.Answer} {t : Nat} {s : σ} :
    (polled answer cancel limit request source delay now state).outcome = some (.ok x, t, s) ↔
      ∃ n < limit, Fetches (answer request) delay.toNat cancel now state n x ∧
        t = now + arrival (answer request) delay.toNat state n ∧
        s = stateAfter (answer request) state (n + 1) := by
  unfold polled
  rw [Option.map_eq_some_iff]
  constructor
  · -- An outcome is that of polling, which has ended with an answer that was fetched.
    rintro ⟨p, hp, heq⟩
    rw [Prod.mk.injEq, Prod.mk.injEq] at heq
    obtain ⟨hresult, rfl, rfl⟩ := heq
    obtain ⟨n, hn, hfetches, rfl⟩ := poll_eq_ok_iff.1 ⟨hp, hresult⟩
    exact ⟨n, hn, hfetches, rfl, rfl⟩
  · rintro ⟨n, hn, hfetches, rfl, rfl⟩
    obtain ⟨hp, -⟩ := poll_eq_ok_iff.2 ⟨n, hn, hfetches, rfl⟩
    exact ⟨_, hp, rfl⟩

/-! ## What is asked and what is told -/

/-- Requests of one history after another are in this order. -/
@[simp] theorem requests_append (first rest : List Happening) :
    requests (first ++ rest) = requests first ++ requests rest :=
  List.filterMap_append

/-- Events of one history after another are in this order. -/
@[simp] theorem events_append (first rest : List Happening) :
    events (first ++ rest) = events first ++ events rest :=
  List.filterMap_append

/-- Telling events asks for nothing. -/
@[simp] theorem requests_told (told : List Event) : requests (told.map .told) = [] := by
  induction told with
  | nil => rfl
  | cons event told ih => exact ih

/-- What is told are the events that are told. -/
@[simp] theorem events_told (told : List Event) : events (told.map .told) = told := by
  induction told with
  | nil => rfl
  | cons event told ih => exact congrArg (event :: ·) ih

/-- Telling an event before a run asks for nothing. -/
theorem requests_after_told {event : Event} {p : Progress σ α} :
    requests (p.after [.told event]).history = requests p.history :=
  rfl

section Proceeding

variable {p : Progress σ (Except Error α)} {failed : Error → List Event}
  {f : α → Nat → σ → Progress σ (Except Error β)}

/-- What goes on after a success asks for what its parts ask for. -/
theorem requests_proceed_of_ok {x : α} (h : p.outcome = some (.ok x, now, state)) :
    requests (p.proceed failed f).history =
      requests p.history ++ requests (f x now state).history := by
  obtain ⟨history, outcome⟩ := p
  cases h
  exact requests_append _ _

/-- What does not go on asks for nothing more. -/
theorem requests_proceed_of_not_ok (h : ∀ x now state, p.outcome ≠ some (.ok x, now, state)) :
    requests (p.proceed failed f).history = requests p.history := by
  obtain ⟨history, outcome⟩ := p
  rcases outcome with _ | ⟨e | x, now, state⟩
  · rfl
  · show requests (history ++ (failed e).map .told) = _
    rw [requests_append, requests_told, List.append_nil]
  · exact absurd rfl (h x now state)

/-- What asks for nothing may go on or not. -/
theorem requests_proceed_of_eq_nil (h : ∀ x now state, requests (f x now state).history = []) :
    requests (p.proceed failed f).history = requests p.history := by
  by_cases hok : ∃ x now state, p.outcome = some (.ok x, now, state)
  · obtain ⟨x, now, state, hp⟩ := hok
    rw [requests_proceed_of_ok hp, h, List.append_nil]
  · exact requests_proceed_of_not_ok fun x now state hp => hok ⟨x, now, state, hp⟩

end Proceeding

/-- Polling puts its one question each time. -/
theorem requests_polled (request : Request) (source : Source) (delay : UInt64) :
    requests (polled answer cancel limit request source delay now state).history =
      List.replicate ((stepsWithin (answer request) delay.toNat cancel limit 0 now state).count
        .asked) request := by
  unfold polled
  dsimp only
  generalize stepsWithin (answer request) delay.toNat cancel limit 0 now state = steps
  induction steps with
  | nil => rfl
  | cons step steps ih =>
    cases step with
    | asked =>
      rw [List.count_cons_self, List.replicate_succ, ← ih]
      rfl
    | busy attempt => exact ih
    | withdrawn => exact ih

/-- Polling tells of nothing but busy answers. -/
theorem exists_retrying_of_mem_polled {request : Request} {source : Source} {delay : UInt64}
    {event : Event}
    (h : event ∈ events (polled answer cancel limit request source delay now state).history) :
    ∃ attempt, event = .retrying source attempt delay := by
  unfold polled at h
  dsimp only at h
  generalize stepsWithin (answer request) delay.toNat cancel limit 0 now state = steps at h
  induction steps with
  | nil => contradiction
  | cons step steps ih =>
    cases step with
    | busy attempt =>
      rcases List.mem_cons.1 h with rfl | h
      · exact ⟨attempt, rfl⟩
      · exact ih h
    | asked => exact ih h
    | withdrawn => exact ih h

/-! ## Completion -/

/-- Nothing tells of a completion. -/
def Quiet (history : List Happening) : Prop :=
  ∀ operation success, .completed operation success ∉ events history

/-- Two histories one after the other are quiet if both are. -/
theorem quiet_append {first rest : List Happening} :
    Quiet (first ++ rest) ↔ Quiet first ∧ Quiet rest := by
  simp only [Quiet, events_append, List.mem_append, not_or, forall_and]

/-- It is quiet where nothing happens. -/
@[simp] theorem quiet_nil : Quiet [] :=
  fun _ _ h => nomatch h

/-- An event that is told is quiet if it is no completion. -/
@[simp] theorem quiet_singleton_told {event : Event} :
    Quiet [.told event] ↔ ∀ operation success, event ≠ .completed operation success := by
  simp [Quiet, events, eq_comm]

/-- Events that are told are quiet if none is a completion. -/
theorem quiet_told {told : List Event} :
    Quiet (told.map .told) ↔ ∀ operation success, .completed operation success ∉ told := by
  rw [Quiet, events_told]

/-- Polling tells of no completion. -/
theorem quiet_polled (request : Request) (source : Source) (delay : UInt64) :
    Quiet (polled answer cancel limit request source delay now state).history := by
  intro operation success h
  obtain ⟨attempt, hevent⟩ := exists_retrying_of_mem_polled h
  cases source <;> contradiction

namespace Progress

/-- What goes on after a success is quiet if its parts are. -/
theorem quiet_proceed {p : Progress σ (Except Error α)} {failed : Error → List Event}
    {f : α → Nat → σ → Progress σ (Except Error β)} (hp : Quiet p.history)
    (hfailed : ∀ e, Quiet ((failed e).map .told))
    (hf : ∀ x now state, Quiet (f x now state).history) :
    Quiet (p.proceed failed f).history := by
  obtain ⟨history, outcome⟩ := p
  rcases outcome with _ | ⟨e | x, now, state⟩
  · exact hp
  · exact quiet_append.2 ⟨hp, hfailed e⟩
  · exact quiet_append.2 ⟨hp, hf x now state⟩

/-- A success is announced as the completion of the operation, last of all, and nothing else is
announced as a completion. -/
def Announces (operation : String) (p : Progress σ (Except Error α)) : Prop :=
  ((∃ x, p.Yields x) ∧
    ∃ earlier, Quiet earlier ∧ p.history = earlier ++ [.told (.completed operation true)]) ∨
  (∀ x, ¬ p.Yields x) ∧ Quiet p.history

/-- What is quiet may happen before an announcement. -/
theorem Announces.after {operation : String} {p : Progress σ (Except Error α)}
    (h : p.Announces operation) {history : List Happening} (hquiet : Quiet history) :
    (p.after history).Announces operation := by
  rcases h with ⟨hyields, earlier, hearlier, heq⟩ | ⟨hfails, hp⟩
  · -- The completion is still the last, and what is before it is quiet.
    refine .inl ⟨hyields, history ++ earlier, quiet_append.2 ⟨hquiet, hearlier⟩, ?_⟩
    show history ++ p.history = _
    rw [heq, List.append_assoc]
  · exact .inr ⟨hfails, quiet_append.2 ⟨hquiet, hp⟩⟩

/-- A failure of which nothing tells as a completion announces nothing. -/
theorem announces_error (operation : String) {history : List Happening} (h : Quiet history)
    (e : Error) : (ended history (.error e : Except Error α) now state).Announces operation :=
  .inr ⟨fun _ hyields => (nomatch yields_ended.1 hyields), h⟩

/-- What goes on after a success announces its success if its last part does and the others are
quiet. -/
theorem announces_proceed {operation : String} {p : Progress σ (Except Error α)}
    {failed : Error → List Event} {f : α → Nat → σ → Progress σ (Except Error β)}
    (hp : Quiet p.history) (hfailed : ∀ e, Quiet ((failed e).map .told))
    (hf : ∀ x now state, (f x now state).Announces operation) :
    (p.proceed failed f).Announces operation := by
  obtain ⟨history, outcome⟩ := p
  rcases outcome with _ | ⟨e | x, now, state⟩
  · exact .inr ⟨fun _ ⟨_, _, h⟩ => (nomatch h), hp⟩
  · exact (announces_error operation (hfailed e) e).after hp
  · exact (hf x now state).after hp

/-- The completion is told exactly if there is a success. -/
theorem Announces.completed_mem_iff {operation : String} {p : Progress σ (Except Error α)}
    (h : p.Announces operation) :
    .completed operation true ∈ events p.history ↔ ∃ x, p.Yields x := by
  rcases h with ⟨hyields, earlier, -, heq⟩ | ⟨hfails, hquiet⟩
  · refine iff_of_true ?_ hyields
    rw [heq, events_append]
    exact List.mem_append_right _ List.mem_cons_self
  · exact iff_of_false (hquiet _ _) fun ⟨x, hx⟩ => hfails x hx

/-- The completion is told once, and last. -/
theorem Announces.eq_append_of_mem {operation : String} {p : Progress σ (Except Error α)}
    (h : p.Announces operation) (hmem : .completed operation true ∈ events p.history) :
    ∃ earlier, events p.history = earlier ++ [.completed operation true] ∧
      .completed operation true ∉ earlier := by
  rcases h with ⟨-, earlier, hquiet, heq⟩ | ⟨-, hquiet⟩
  · refine ⟨events earlier, ?_, hquiet _ _⟩
    rw [heq, events_append]
    rfl
  · exact absurd hmem (hquiet _ _)

end Progress

end Rollout.Operation
