import Mathlib.Algebra.GroupWithZero.Nat
import Mathlib.Logic.Function.Iterate
import Mathlib.Order.Bounds.Basic
import Rollout.Http.Client

/-!
# How often a request is sent

A request is followed along the outcomes that it would have if it were sent over and over
(`outcomeAt`). The first outcome that is final ends the sending, and so does the last attempt that
is allowed, whichever has the lower number (`exists_send_eq`): the requests up to this one are sent,
with waits that grow by one delay each, and its outcome is what is reported.

Sending can be written as a loop over the numbers of the attempts that remembers the latest failure
(`attemptEach`). Such a loop also has to say what it reports if it remembers none. This never
happens, because there is at least one attempt: both ways of sending come to the same
(`attemptEach_range'`).
-/

namespace Rollout.Http

variable {σ : Type} {once : σ → Outcome × σ} {delay retries k : Nat} {state : σ}

/-! ## The outcomes of one request after another -/

/-- The state after a number of requests. -/
def stateAt (once : σ → Outcome × σ) (state : σ) (n : Nat) : σ :=
  (fun s => (once s).2)^[n] state

/-- The outcome of the request that is sent after `n` others. -/
def outcomeAt (once : σ → Outcome × σ) (state : σ) (n : Nat) : Outcome :=
  (once (stateAt once state n)).1

/-- The later states are those from the state after the first request. -/
theorem stateAt_succ (n : Nat) : stateAt once state (n + 1) = stateAt once (once state).2 n := rfl

/-- The later outcomes are those from the state after the first request. -/
theorem outcomeAt_succ (n : Nat) : outcomeAt once state (n + 1) = outcomeAt once (once state).2 n :=
  rfl

/-- Nothing is sent after this outcome: it is a response, or a failure of another kind than that
time ran out or that there was no connection. -/
inductive Outcome.IsFinal : Outcome → Prop
  | answered (response : Response) : IsFinal (.answered response)
  | failed : IsFinal (.failed ⟨false, false⟩)

/-- Whatever is not sent again is final. -/
theorem Outcome.isRetryable_eq_false_iff {outcome : Outcome} :
    outcome.isRetryable = false ↔ outcome.IsFinal := by
  constructor
  · intro h
    match outcome with
    | .answered response => exact .answered response
    | .failed ⟨false, false⟩ => exact .failed
    | .failed ⟨true, _⟩ => contradiction
    | .failed ⟨false, true⟩ => contradiction
  · rintro (response | _) <;> rfl

/-- The request with this number is the last one: it is the first with a final outcome, or the last
one that is allowed, whichever comes first. -/
def IsLast (once : σ → Outcome × σ) (state : σ) (retries k : Nat) : Prop :=
  IsLeast {i | i = retries ∨ (outcomeAt once state i).IsFinal} k

/-- Without a retry the first request is the last. -/
theorem isLast_zero : IsLast once state 0 0 :=
  ⟨.inl rfl, fun _ _ => Nat.zero_le _⟩

/-- After a final outcome nothing is sent. -/
theorem isLast_of_isFinal (h : (once state).1.IsFinal) : IsLast once state retries 0 :=
  ⟨.inr h, fun _ _ => Nat.zero_le _⟩

/-- After another outcome the sending goes on as it would by itself with one attempt less. -/
theorem IsLast.succ (hfinal : ¬ (once state).1.IsFinal) (h : IsLast once (once state).2 retries k) :
    IsLast once state (retries + 1) (k + 1) := by
  obtain ⟨hk, hleast⟩ := h
  refine ⟨hk.imp (congrArg (· + 1)) id, fun i hi => ?_⟩
  cases i with
  | zero =>
    -- The first request is neither the last one allowed nor has it a final outcome.
    rcases hi with hi | hi
    · contradiction
    · exact absurd hi hfinal
  | succ i =>
    have hlater : i = retries ∨ (outcomeAt once (once state).2 i).IsFinal :=
      hi.imp Nat.succ.inj id
    exact Nat.succ_le_succ (hleast hlater)

/-! ## The requests that are sent -/

/-- A request is sent up to the last one, each time after a wait that is longer by one delay. -/
theorem exists_send_eq (attempt : Nat) : ∃ k, IsLast once state retries k ∧
    send once delay retries attempt state =
      ⟨outcomeAt once state k, (List.range' attempt (k + 1)).map (delay * ·),
        stateAt once state (k + 1)⟩ := by
  induction retries generalizing attempt state with
  | zero => exact ⟨0, isLast_zero, rfl⟩
  | succ retries ih =>
    cases hretry : (once state).1.isRetryable with
    | false =>
      -- A final outcome ends the sending at once.
      refine ⟨0, isLast_of_isFinal (Outcome.isRetryable_eq_false_iff.1 hretry), ?_⟩
      simp [send_succ, hretry, outcomeAt, stateAt]
    | true =>
      -- After another outcome the rest is sent as it would be by itself, with the next numbers.
      have hfinal : ¬ (once state).1.IsFinal := by
        rw [← Outcome.isRetryable_eq_false_iff, hretry]
        decide
      obtain ⟨k, hlast, hsend⟩ := @ih (once state).2 (attempt + 1)
      refine ⟨k + 1, hlast.succ hfinal, ?_⟩
      rw [List.range'_succ, List.map_cons, outcomeAt_succ, stateAt_succ (k + 1)]
      simp only [send_succ, hretry, if_true, hsend]

/-- The waits before `k` requests after the first are together as many delays as the numbers up to
`k`. -/
theorem sum_waits (delay k : Nat) :
    ((List.range (k + 1)).map (delay * ·)).sum = delay * k * (k + 1) / 2 := by
  have htwice : 2 * ((List.range (k + 1)).map (delay * ·)).sum = delay * k * (k + 1) := by
    induction k with
    | zero => simp
    | succ k ih =>
      rw [List.range_succ, List.map_append, List.sum_append, Nat.mul_add, ih, List.map_singleton,
        List.sum_singleton]
      grind
  omega

/-! ## What is reported -/

/-- What is reported of the last outcome. -/
inductive Reports (url : String) : Outcome → Except NetworkError Response → Prop
  /-- A response of whatever status is given back as it is. -/
  | answered (response : Response) : Reports url (.answered response) (.ok response)
  /-- Time may also run out before there is a connection. -/
  | timeout (connecting : Bool) : Reports url (.failed ⟨true, connecting⟩) (.error (.timeout url))
  | refused (reason : String) :
    Reports url (.failed ⟨false, true⟩) (.error (.connectionRefused reason))
  | failed (reason : String) :
    Reports url (.failed ⟨false, false⟩) (.error (.requestFailed reason))

/-- Every outcome is reported as it should be. -/
theorem reports_result (url : String) (outcome : Outcome) :
    Reports url outcome (outcome.result url) := by
  match outcome with
  | .answered response => exact .answered response
  | .failed ⟨true, connecting⟩ => exact .timeout connecting
  | .failed ⟨false, true⟩ => exact .refused _
  | .failed ⟨false, false⟩ => exact .failed _

/-! ## Sending as a loop -/

/-- What a loop over attempts came to: the response that ended it or else the failure that it
remembers, if any, the wait before each request, and the state then. -/
structure Attempts (σ : Type) where
  result : Except (Option TransportFailure) Response
  waits : List Nat
  state : σ

/-- Makes one attempt after another, remembering the failure of the last, until one ends them. -/
def attemptEach (once : σ → Outcome × σ) (delay : Nat) :
    List Nat → Option TransportFailure → σ → Attempts σ
  | [], last, state => ⟨.error last, [], state⟩
  | attempt :: others, _, state =>
    match once state with
    | (.answered response, state) => ⟨.ok response, [delay * attempt], state⟩
    | (.failed failure, state) =>
      if failure.timedOut || failure.connecting then
        let rest := attemptEach once delay others (some failure) state
        { rest with waits := delay * attempt :: rest.waits }
      else ⟨.error (some failure), [delay * attempt], state⟩

/-- What the loop reports. -/
def Attempts.report (url : String) (attempts : Attempts σ) : Except NetworkError Response :=
  match attempts.result with
  | .ok response => .ok response
  | .error (some failure) => (Outcome.failed failure).result url
  | .error none => .error (.requestFailed "Unknown error")

/-- The response or the failure of an outcome, as a loop ends with it. -/
def Outcome.remembered : Outcome → Except (Option TransportFailure) Response
  | answered response => .ok response
  | failed failure => .error (some failure)

/-- Attempts in a loop come to what sending comes to, whatever was remembered before. -/
theorem attemptEach_range' (attempt : Nat) (last : Option TransportFailure) :
    attemptEach once delay (List.range' attempt (retries + 1)) last state =
      let sent := send once delay retries attempt state
      ⟨sent.outcome.remembered, sent.waits, sent.state⟩ := by
  induction retries generalizing attempt last state with
  | zero =>
    -- The failure of the only attempt is remembered, whether or not it would be repeated.
    rcases hone : once state with ⟨_ | ⟨timedOut, connecting⟩, next⟩
    · simp [attemptEach, send_zero, hone, Outcome.remembered]
    · cases timedOut <;> cases connecting <;>
        simp [attemptEach, send_zero, hone, Outcome.remembered]
  | succ retries ih =>
    rw [List.range'_succ]
    -- Where the loop goes on, what it remembers is replaced by what comes next.
    rcases hone : once state with ⟨_ | failure, next⟩
    · simp [attemptEach, send_succ, hone, Outcome.remembered, Outcome.isRetryable]
    · cases hretry : failure.timedOut || failure.connecting with
      | false =>
        simp [attemptEach, send_succ, hone, hretry, Outcome.remembered, Outcome.isRetryable]
      | true => simp [attemptEach, send_succ, hone, hretry, ih, Outcome.isRetryable]

/-- A loop over at least one attempt remembers a failure if no response ended it. -/
theorem remembered_ne_none (outcome : Outcome) : outcome.remembered ≠ .error none := by
  cases outcome <;> simp [Outcome.remembered]

/-- A request is sent `k + 1` times, where `k` is the number of the first outcome that is final or
the number of retries, whichever is lower: it waits `i` delays before the request with the number
`i`, and what it reports is the outcome with the number `k`. Sending in a loop that remembers the
latest failure comes to the same, and always remembers one. -/
theorem send_outcome (once : σ → Outcome × σ) (delay retries : Nat) (state : σ) (url : String) :
    let sent := send once delay retries 0 state
    let attempts := attemptEach once delay (List.range (retries + 1)) none state
    (∃ k, IsLeast {i | i = retries ∨ (outcomeAt once state i).IsFinal} k ∧
      sent.state = stateAt once state (k + 1) ∧
      sent.waits = (List.range (k + 1)).map (delay * ·) ∧
      sent.waits.sum = delay * k * (k + 1) / 2 ∧
      sent.outcome = outcomeAt once state k) ∧
    Reports url sent.outcome (sent.outcome.result url) ∧
    attempts.waits = sent.waits ∧ attempts.state = sent.state ∧
    attempts.report url = sent.outcome.result url ∧ attempts.result ≠ .error none := by
  intro sent attempts
  -- What is sent ends with the last request.
  obtain ⟨k, hlast, hsend⟩ : ∃ k, IsLast once state retries k ∧ sent = _ := exists_send_eq 0
  -- The loop comes to what is sent.
  have hattempts : attempts = ⟨sent.outcome.remembered, sent.waits, sent.state⟩ := by
    show attemptEach once delay (List.range (retries + 1)) none state = _
    rw [List.range_eq_range']
    exact attemptEach_range' 0 none
  rw [← List.range_eq_range'] at hsend
  refine ⟨⟨k, hlast, ?_, ?_, ?_, ?_⟩, reports_result url _, ?_, ?_, ?_, ?_⟩
  · rw [hsend]
  · rw [hsend]
  · rw [hsend]
    exact sum_waits delay k
  · rw [hsend]
  · rw [hattempts]
  · rw [hattempts]
  · rw [hattempts]
    cases sent.outcome <;> rfl
  · rw [hattempts]
    exact remembered_ne_none _

/-- A service that is not there for two requests and busy from then on is asked three times. -/
example :
    send (fun i : Nat => (if i < 2 then .failed ⟨true, true⟩ else .answered ⟨503, ""⟩, i + 1))
      500 5 0 0 = ⟨.answered ⟨503, ""⟩, [0, 500, 1000], 3⟩ := rfl

end Rollout.Http
