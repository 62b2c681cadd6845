import Rollout.Http.Endpoint
import Rollout.Rehearsal

/-!
# Sending requests

A request that meets no service, or none that answers in time, is sent again after a delay that
grows with each attempt, up to a number of times. Every answer ends the sending, whatever its
status, and so does any other failure. `sendAgain` is the loop in any monad: the program runs it in
the world, and `send` rehearses it.
-/

namespace Rollout.Http

open Service

/-- Why no answer came. -/
structure TransportFailure where
  /-- Time ran out. -/
  timedOut : Bool
  /-- There was no connection yet. -/
  connecting : Bool
  deriving DecidableEq, Repr

/-- What becomes of a request that is sent once. -/
inductive Outcome where
  | answered (response : Response)
  | failed (failure : TransportFailure)
  deriving DecidableEq, Repr

/-- Whether the request may be sent again. -/
def Outcome.isRetryable : Outcome → Bool
  | answered _ => false
  | failed f => f.timedOut || f.connecting

/-- The answer, or the error that tells of its absence. -/
def Outcome.result (url : String) : Outcome → Except NetworkError Response
  | answered response => .ok response
  | failed f =>
    let reason := "error sending request for url (" ++ url ++ ")"
    .error <|
      if f.timedOut then .timeout url
      else if f.connecting then .connectionRefused reason
      else .requestFailed reason

/-- Sends a request, and again up to `retries` times while it may be; before the request with the
number `attempt` it waits that many delays. -/
def sendAgain {m : Type → Type} [Monad m] (once : m Outcome) (wait : Nat → m Unit) (delay : Nat) :
    (retries : Nat) → (attempt : Nat) → m Outcome
  | 0, attempt => do
    wait (delay * attempt)
    once
  | retries + 1, attempt => do
    wait (delay * attempt)
    let outcome ← once
    if outcome.isRetryable then sendAgain once wait delay retries (attempt + 1)
    else return outcome

/-- What sending came to: the last outcome, the wait before each request, and the state then. -/
structure Sent (σ : Type) where
  outcome : Outcome
  waits : List Nat
  state : σ

/-- Rehearses the sending of a request, which only changes a state, and records the waits. -/
def send {σ : Type} (once : σ → Outcome × σ) (delay retries attempt : Nat) (state : σ) : Sent σ :=
  let sent := sendAgain (Rehearsal.change once) Rehearsal.note delay retries attempt state
  ⟨sent.value, sent.record, sent.state⟩

section

variable {σ : Type} (once : σ → Outcome × σ) (delay retries attempt : Nat) (state : σ)

/-- The last request that is allowed is sent whatever comes of it. -/
theorem send_zero : send once delay 0 attempt state =
    ⟨(once state).1, [delay * attempt], (once state).2⟩ := rfl

/-- After any other request the sending ends, or goes on as it would by itself. -/
theorem send_succ : send once delay (retries + 1) attempt state =
    if (once state).1.isRetryable then
      let rest := send once delay retries (attempt + 1) (once state).2
      { rest with waits := delay * attempt :: rest.waits }
    else ⟨(once state).1, [delay * attempt], (once state).2⟩ := by
  cases hretry : (once state).1.isRetryable <;> simp [send, sendAgain, hretry]

end

/-- How requests are sent to the service. -/
structure Client where
  /-- The base address of the service. -/
  base : Url
  /-- How often a request is sent again. -/
  retries : UInt32
  /-- The milliseconds of one delay. -/
  delay : Nat

/-- What comes of a request in the end. A user name and password in the address are taken out of it
before it is sent, and do not stand in what is said of a failed sending. -/
def Client.conclude (client : Client) (request : Request) (outcome : Outcome) :
    Except Error request.Answer :=
  let url := request.url client.base
  ((outcome.result url.withoutUser.text).bind (request.interpret url.text)).mapError .network

/-- Something with a state that carries a request to an address. -/
abbrev Transport (σ : Type) :=
  Request → Url → σ → Outcome × σ

/-- The replies of the service behind a transport. -/
def Client.responder {σ : Type} (client : Client) (transport : Transport σ) : Responder σ :=
  fun request state =>
    let once := transport request (request.url client.base)
    let sent := send once client.delay client.retries.toNat 0 state
    (⟨client.conclude request sent.outcome, sent.waits.foldr (· + ·) 0⟩, sent.state)

end Rollout.Http
