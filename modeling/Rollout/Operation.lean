import Rollout.Event
import Rollout.Service.Polling

/-!
# Operations

An operation is a plan: it tells events, asks the service, and goes on according to the answers.
`Operation.run` carries it out against a responder and gives its result with the history of what
happened. Since a plan is data, what can be shown of its runs holds for every service.
-/

namespace Rollout

open Service

/-- A plan that ends with a result. -/
inductive Operation (α : Type) where
  /-- Ends. -/
  | done (result : α)
  /-- Tells an event. -/
  | tell (event : Event) (next : Operation α)
  /-- Asks the service once. -/
  | ask (request : Request) (next : Except Error request.Answer → Operation α)
  /-- Asks the service until it is not busy, telling each attempt by an event of the source. -/
  | poll (request : Request) (source : Source) (delay : UInt64)
      (next : Except Error request.Answer → Operation α)

namespace Operation

variable {α β σ : Type}

/-- Goes on with another plan that depends on the result. -/
def bind : Operation α → (α → Operation β) → Operation β
  | done x, f => f x
  | tell event next, f => tell event (next.bind f)
  | ask request next, f => ask request fun answer => (next answer).bind f
  | poll request source delay next, f =>
    poll request source delay fun answer => (next answer).bind f

instance : Monad Operation where
  pure := done
  bind := bind

/-- Tells some events. -/
def tellAll (events : List Event) : Operation Unit :=
  events.foldr tell (done ())

/-- Asks the service once and ends with its answer. -/
def question (request : Request) : Operation (Except Error request.Answer) :=
  ask request done

/-- Asks the service until it is not busy and ends with its answer. -/
def polling (request : Request) (source : Source) (delay : UInt64) :
    Operation (Except Error request.Answer) :=
  poll request source delay done

/-- Something that happens while a plan is carried out. -/
inductive Happening where
  | told (event : Event)
  | asked (request : Request)
  deriving DecidableEq, Repr

/-- What happens in a step of polling. -/
def happening? (request : Request) (source : Source) (delay : UInt64) :
    PollStep → Option Happening
  | .asked => some (.asked request)
  | .busy attempt => some (.told (.retrying source attempt delay))
  | .withdrawn => none

/-- How a plan ended: with what, after which history, when, and the service's state then. -/
structure Ended (σ α : Type) where
  result : α
  history : List Happening
  now : Nat
  state : σ

/-- The same end with more history before it. -/
def Ended.after (history : List Happening) (e : Ended σ α) : Ended σ α :=
  { e with history := history ++ e.history }

/-- Carries out a plan. A cancellation ends polling; a single question is always answered. `limit`
bounds the questions of one polling. -/
def run (answer : Responder σ) (cancel : Option Nat) (limit : Nat) :
    Operation α → (now : Nat) → σ → Option (Ended σ α)
  | done result, now, state => some ⟨result, [], now, state⟩
  | tell event next, now, state =>
    (next.run answer cancel limit now state).map (Ended.after [.told event])
  | ask request next, now, state =>
    let (reply, state) := answer request state
    ((next reply.result).run answer cancel limit (now + reply.took) state).map
      (Ended.after [.asked request])
  | poll request source delay next, now, state =>
    (Service.poll (answer request) delay.toNat cancel limit 0 now state).bind fun p =>
      ((next p.result).run answer cancel limit p.now p.state).map
        (Ended.after (p.steps.filterMap (happening? request source delay)))

/-- The events of a history. -/
def events (history : List Happening) : List Event :=
  history.filterMap fun
    | .told event => some event
    | .asked _ => none

/-- The requests of a history. -/
def requests (history : List Happening) : List Request :=
  history.filterMap fun
    | .told _ => none
    | .asked request => some request

end Operation

end Rollout
