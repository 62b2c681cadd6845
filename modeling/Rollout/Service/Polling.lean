import Rollout.Rehearsal
import Rollout.Service.Request

/-!
# Asking a busy service again

While the service answers that it is busy, the same question is put again after a fixed delay, as
often as need be. Any other answer ends the polling, and so does cancellation, before a question,
while an answer is awaited, or between two questions. `PollWorld.round` is one round of this in any
monad: the program repeats it in the world, and `poll` rehearses it. Times are milliseconds; in a
rehearsal they are read from a clock that moves only as answers and delays take their time.
-/

namespace Rollout.Service

/-- A step of polling. -/
inductive PollStep where
  /-- The question was put. -/
  | asked
  /-- The service was busy for this many times now, and the delay begins. -/
  | busy (attempt : UInt32)
  /-- The question was about to be put when it was found cancelled. -/
  | withdrawn
  deriving DecidableEq, Repr

/-- How polling ended: with what, through which steps, when, and the service's state then. -/
structure Polled (σ α : Type) where
  result : Except Error α
  steps : List PollStep
  now : Nat
  state : σ

/-- The same end after some more steps. -/
def Polled.after {σ α : Type} (steps : List PollStep) (p : Polled σ α) : Polled σ α :=
  { p with steps := steps ++ p.steps }

/-- Whether a cancellation at the given time, if any, has come by now. -/
def isCancelled (cancel : Option Nat) (now : Nat) : Bool :=
  match cancel with
  | none => false
  | some c => c ≤ now

/-- The number of the next attempt; the highest number stays. -/
def nextAttempt (attempt : UInt32) : UInt32 :=
  if attempt.toNat + 1 < UInt32.size then attempt + 1 else attempt

/-- What polling needs of the world that it runs in. -/
structure PollWorld (m : Type → Type) (α : Type) where
  /-- Whether the polling is cancelled before the question is put. -/
  isCancelled : m Bool
  /-- Puts the question. There is no result if a cancellation comes before it. -/
  ask : m (Option (Except Error α))
  /-- Tells that the service was busy for this many times now. -/
  tell : UInt32 → m Unit
  /-- Lets the delay pass, and says whether it passed before a cancellation. -/
  rest : m Bool

/-- One round of polling: the number of the attempt to go on with, or what the polling ends with. -/
def PollWorld.round {m : Type → Type} [Monad m] {α : Type} (world : PollWorld m α)
    (attempt : UInt32) : m (UInt32 ⊕ Except Error α) := do
  if ← world.isCancelled then return .inr (.error .cancelled)
  match ← world.ask with
  | none => return .inr (.error .cancelled)
  | some result =>
    if isBusy result then
      let attempt := nextAttempt attempt
      world.tell attempt
      if ← world.rest then return .inl attempt
      else return .inr (.error .cancelled)
    else return .inr result

/-- The rehearsal of polling: a clock and the state of the service change, and the steps are
recorded. -/
def rehearsedWorld {σ α : Type} (ask : σ → Reply α × σ) (delay : Nat) (cancel : Option Nat) :
    PollWorld (Rehearsal PollStep (Nat × σ)) α where
  isCancelled := fun (now, state) =>
    if isCancelled cancel now then ⟨true, [.withdrawn], (now, state)⟩
    else ⟨false, [], (now, state)⟩
  ask := fun (now, state) =>
    let (reply, state) := ask state
    let arrival := now + reply.took
    if isCancelled cancel arrival then ⟨none, [.asked], (cancel.getD arrival, state)⟩
    else ⟨some reply.result, [.asked], (arrival, state)⟩
  tell attempt := .note (.busy attempt)
  rest := fun (now, state) =>
    let wake := now + delay
    if isCancelled cancel wake then ⟨false, [], (cancel.getD wake, state)⟩
    else ⟨true, [], (wake, state)⟩

section

variable {σ α : Type} (ask : σ → Reply α × σ) (delay : Nat) (cancel : Option Nat) (now : Nat)
  (state : σ)

/-- A rehearsal looks at its clock. -/
theorem rehearsedWorld_isCancelled : (rehearsedWorld ask delay cancel).isCancelled (now, state) =
    if isCancelled cancel now then ⟨true, [.withdrawn], (now, state)⟩
    else ⟨false, [], (now, state)⟩ := rfl

/-- A question takes the time of its reply, and is noted. -/
theorem rehearsedWorld_ask : (rehearsedWorld ask delay cancel).ask (now, state) =
    let arrival := now + (ask state).1.took
    if isCancelled cancel arrival then ⟨none, [.asked], (cancel.getD arrival, (ask state).2)⟩
    else ⟨some (ask state).1.result, [.asked], (arrival, (ask state).2)⟩ := rfl

/-- A busy answer is noted. -/
theorem rehearsedWorld_tell (attempt : UInt32) :
    (rehearsedWorld ask delay cancel).tell attempt (now, state) =
      ⟨(), [.busy attempt], (now, state)⟩ := rfl

/-- A delay passes on the clock. -/
theorem rehearsedWorld_rest : (rehearsedWorld ask delay cancel).rest (now, state) =
    let wake := now + delay
    if isCancelled cancel wake then ⟨false, [], (cancel.getD wake, state)⟩
    else ⟨true, [], (wake, state)⟩ := rfl

end

/-- Rehearses polling: puts a question until the answer is not that the service is busy, at most
`limit` times. -/
def poll {σ α : Type} (ask : σ → Reply α × σ) (delay : Nat) (cancel : Option Nat) :
    (limit : Nat) → (attempt : UInt32) → (now : Nat) → σ → Option (Polled σ α)
  | 0, _, _, _ => none
  | limit + 1, attempt, now, state =>
    match (rehearsedWorld ask delay cancel).round attempt (now, state) with
    | ⟨.inl attempt, steps, (now, state)⟩ =>
      (poll ask delay cancel limit attempt now state).map (Polled.after steps)
    | ⟨.inr result, steps, (now, state)⟩ => some ⟨result, steps, now, state⟩

/-- The numbers of the attempts that found the service busy. -/
def attempts (steps : List PollStep) : List UInt32 :=
  steps.filterMap fun
    | .busy attempt => some attempt
    | _ => none

/-- How often the question was put or about to be put. -/
def questions (steps : List PollStep) : Nat :=
  steps.countP fun
    | .busy _ => false
    | _ => true

end Rollout.Service
