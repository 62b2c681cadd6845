import Rollout.Operation

/-!
# Relaying events

While an operation is carried out its events are queued on a channel, and a handler is given them
from the other end. The operation and the channel are raced: at each turn one of those that are
ready is taken, and which one is left open. The channel is ready when an event is queued on it. It
is not found closed before the operation has completed, since the operation holds its sender. The
operation is ready whenever it can make progress. When it has completed, the handler is given
what is still queued, and the result is returned.
-/

namespace Rollout.Operation

/-- An operation in progress whose events are relayed to a handler. -/
structure Relay (α : Type) where
  /-- What has yet to happen in the operation. -/
  ahead : List Happening
  /-- What the operation completes with. -/
  result : α
  /-- The events that are queued, the oldest first. -/
  channel : List Event
  /-- The events that the handler has been given. -/
  handled : List Event
  /-- What has been returned. -/
  returned : Option α
  deriving DecidableEq, Repr

namespace Relay

variable {α : Type}

/-- A branch of the race. -/
inductive Branch where
  /-- The operation makes progress. -/
  | operation
  /-- An event is received. -/
  | channel
  deriving DecidableEq, Repr

/-- The relay before anything has happened. -/
def start (history : List Happening) (result : α) : Relay α :=
  ⟨history, result, [], [], none⟩

/-- Gives the handler the queued events, one after the other, until none is left. -/
def drain (handled : List Event) : (channel : List Event) → List Event
  | [] => handled
  | event :: channel => drain (handled ++ [event]) channel

/-- The operation makes progress: it tells an event, asks the service, or completes. -/
def advance (r : Relay α) : Relay α :=
  match r.ahead with
  | .told event :: ahead => { r with ahead, channel := r.channel ++ [event] }
  | .asked _ :: ahead => { r with ahead }
  | [] => { r with channel := [], handled := drain r.handled r.channel, returned := some r.result }

/-- The handler is given the oldest event on the channel, if there is one. -/
def receive? (r : Relay α) : Option (Relay α) :=
  match r.channel with
  | [] => none
  | event :: channel => some { r with channel, handled := r.handled ++ [event] }

/-- Takes a branch if it is ready. Nothing is taken after the return. -/
def take? (r : Relay α) (branch : Branch) : Option (Relay α) :=
  if r.returned.isSome then none
  else match branch with
    | .operation => some r.advance
    | .channel => r.receive?

/-- Takes branches one after the other, as long as each of them is ready. -/
def run? (r : Relay α) : List Branch → Option (Relay α)
  | [] => some r
  | branch :: branches => (r.take? branch).bind fun r => r.run? branches

end Relay

end Rollout.Operation
