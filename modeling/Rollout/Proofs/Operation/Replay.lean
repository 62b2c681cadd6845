import Rollout.Proofs.Operation.Progress

/-!
# What the service has answered

A history holds the requests of a run but not the answers to them. The service is a function of its
state, so the answers can be had again by putting the same requests to it from the same state:
`afterRequests` is the state that they lead to, and `reports` are the reports on the mirrors among
the answers. A run that is not cancelled leads to exactly the state that its requests lead to
(`afterRequests_of_outcome`), so the answers to the requests of two plans, one after the other, are
those to the first and then those to the second (`reports_proceed`).

Polling that is not cancelled ends with the answer that the service gives when it is no longer busy
(`Gives`). Of all its questions only the last receives a report (`reports_polled`).
-/

namespace Rollout.Operation

open Service

variable {α β σ : Type} {answer : Responder σ} {limit now : Nat} {state : σ}

/-- After `n` busy answers the service gives this one. -/
structure Gives (answer : Responder σ) (request : Request) (state : σ) (n : Nat)
    (result : Except Error request.Answer) : Prop where
  settles : Settles (answer request) state n
  result_eq : (replyAt (answer request) state n).result = result

/-- The state that requests lead to. -/
def afterRequests (answer : Responder σ) (requests : List Request) (state : σ) : σ :=
  requests.foldl (fun state request => (answer request state).2) state

/-- The reports on the mirrors that are received to requests. -/
def reports (answer : Responder σ) : List Request → σ → List MirrorReport
  | [], _ => []
  | .mirrors :: rest, state =>
    match (answer .mirrors state).1.result with
    | .ok report => report :: reports answer rest (answer .mirrors state).2
    | .error _ => reports answer rest (answer .mirrors state).2
  | request :: rest, state => reports answer rest (answer request state).2

/-! ## Putting requests again -/

/-- Requests in a row lead on from where the earlier ones lead. -/
theorem afterRequests_append (first rest : List Request) (state : σ) :
    afterRequests answer (first ++ rest) state =
      afterRequests answer rest (afterRequests answer first state) :=
  List.foldl_append

/-- The same request again and again leads through the states of polling. -/
theorem afterRequests_replicate (request : Request) (n : Nat) (state : σ) :
    afterRequests answer (List.replicate n request) state =
      stateAfter (answer request) state n := by
  induction n generalizing state with
  | zero => rfl
  | succ n ih =>
    rw [List.replicate_succ, stateAfter_succ, ← ih]
    rfl

/-- Requests in a row receive the reports of the earlier ones and then of the later ones. -/
theorem reports_append (first rest : List Request) (state : σ) :
    reports answer (first ++ rest) state =
      reports answer first state ++ reports answer rest (afterRequests answer first state) := by
  induction first generalizing state with
  | nil => rfl
  | cons request first ih =>
    have hrest := ih (answer request state).2
    -- Only a request for the mirrors can receive a report.
    cases request with
    | mirrors =>
      rw [List.cons_append, reports, reports]
      split
      · exact congrArg (_ :: ·) hrest
      · exact hrest
    | components => exact hrest
    | deployments status => exact hrest
    | delete name => exact hrest
    | connection cluster => exact hrest

/-- Asking for the listing receives no report. -/
theorem reports_replicate_components (n : Nat) (state : σ) :
    reports answer (List.replicate n .components) state = [] := by
  induction n generalizing state with
  | zero => rfl
  | succ n ih => exact ih _

/-- Of questions that are busy but for the last only that one receives a report. -/
theorem reports_replicate_mirrors {n : Nat} {report : MirrorReport}
    (h : Gives answer .mirrors state n (.ok report)) :
    reports answer (List.replicate (n + 1) .mirrors) state = [report] := by
  obtain ⟨hsettles, hresult⟩ := h
  induction n generalizing state with
  | zero =>
    rw [replyAt_zero] at hresult
    show reports answer [.mirrors] state = _
    rw [reports, hresult]
    rfl
  | succ n ih =>
    -- The first question finds the service busy, so it receives nothing.
    obtain ⟨hbusy, hrest⟩ := settles_succ.1 hsettles
    rw [replyAt_succ] at hresult
    have hlater := ih hrest hresult
    rw [List.replicate_succ, reports]
    unfold Reply.isBusy at hbusy
    split
    · next hok =>
      rw [hok] at hbusy
      contradiction
    · exact hlater

/-! ## Polling that is not cancelled -/

/-- Polling that is not cancelled ends with what the service gives. -/
theorem outcome_polled_iff {request : Request} {source : Source} {delay : UInt64}
    {result : Except Error request.Answer} {t : Nat} {s : σ} :
    (polled answer none limit request source delay now state).outcome = some (result, t, s) ↔
      ∃ n < limit, Gives answer request state n result ∧
        t = now + arrival (answer request) delay.toNat state n ∧
        s = stateAfter (answer request) state (n + 1) := by
  unfold polled
  rw [Option.map_eq_some_iff]
  constructor
  · rintro ⟨p, hp, heq⟩
    rw [Prod.mk.injEq, Prod.mk.injEq] at heq
    obtain ⟨rfl, rfl, rfl⟩ := heq
    -- Without a cancellation polling ends with a reply that is not busy.
    rcases poll_cases hp with ⟨n, hn, hsettles, -, rfl⟩ | ⟨hcancelled, -⟩
    · exact ⟨n, hn, ⟨hsettles, rfl⟩, rfl, rfl⟩
    · contradiction
  · rintro ⟨n, hn, ⟨hsettles, rfl⟩, rfl, rfl⟩
    exact ⟨_, poll_of_settles hsettles rfl hn, rfl⟩

/-- Without a cancellation what is fetched is what the service gives. -/
theorem fetches_iff_gives {request : Request} {delay n : Nat} {x : request.Answer} :
    Fetches (answer request) delay none now state n x ↔ Gives answer request state n (.ok x) :=
  ⟨fun h => ⟨h.settles, h.result_eq⟩, fun h => ⟨h.settles, h.result_eq, nofun⟩⟩

/-- It fails exactly if the service gives a failure. -/
theorem fails_polled_iff {request : Request} {source : Source} {delay : UInt64} {err : Error} :
    (polled answer none limit request source delay now state).Fails err ↔
      ∃ n < limit, Gives answer request state n (.error err) := by
  unfold Progress.Fails
  simp only [outcome_polled_iff]
  constructor
  · rintro ⟨_, _, n, hn, hgives, -, -⟩
    exact ⟨n, hn, hgives⟩
  · rintro ⟨n, hn, hgives⟩
    exact ⟨_, _, n, hn, hgives, rfl, rfl⟩

/-- It puts its question as often as it takes. -/
theorem requests_polled_of_gives {request : Request} {source : Source} {delay : UInt64} {n : Nat}
    {result : Except Error request.Answer} (h : Gives answer request state n result)
    (hlimit : n < limit) :
    requests (polled answer none limit request source delay now state).history =
      List.replicate (n + 1) request := by
  have hpoll : Service.poll (answer request) delay.toNat none limit 0 now state = some _ :=
    poll_of_settles h.settles rfl hlimit
  rw [requests_polled, stepsWithin_of_poll hpoll, List.count_append, count_asked_busySteps]
  rfl

/-- The requests of a run that is not cancelled lead to the state in which it has ended. -/
theorem afterRequests_of_outcome {op : Operation α} {result : α} {t : Nat} {s : σ}
    (h : (op.progress answer none limit now state).outcome = some (result, t, s)) :
    afterRequests answer (requests (op.progress answer none limit now state).history) state =
      s := by
  induction op generalizing now state with
  | done x =>
    cases h
    rfl
  | tell event next ih => exact ih h
  | ask request next ih => exact ih _ h
  | poll request source delay next ih =>
    rw [progress] at h ⊢
    -- The polling has ended, and the rest begins in the state that its questions lead to.
    obtain ⟨reply, t', s', hpolled, hnext⟩ := Progress.outcome_bind_eq_some_iff.1 h
    obtain ⟨n, hn, hgives, -, rfl⟩ := outcome_polled_iff.1 hpolled
    have hlater := ih reply hnext
    rw [Progress.bind_of_some hpolled]
    show afterRequests answer (requests (_ ++ _)) state = s
    rw [requests_append, requests_polled_of_gives hgives hn, afterRequests_append,
      afterRequests_replicate]
    exact hlater

/-- Of two plans, one after the success of the other, both receive their reports. -/
theorem reports_proceed {op : Operation (Except Error α)} {failed : Error → List Event}
    {f : α → Nat → σ → Progress σ (Except Error β)} {x : α} {t : Nat} {s : σ}
    (h : (op.progress answer none limit now state).outcome = some (.ok x, t, s)) :
    reports answer (requests ((op.progress answer none limit now state).proceed failed f).history)
        state =
      reports answer (requests (op.progress answer none limit now state).history) state ++
        reports answer (requests (f x t s).history) s := by
  rw [requests_proceed_of_ok h, reports_append, afterRequests_of_outcome h]

end Rollout.Operation
