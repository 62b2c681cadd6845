import Rollout.Error
import Rollout.Service.Payload

/-!
# Questions to the service

The service answers five kinds of request, each with its own kind of data.
-/

namespace Rollout.Service

/-- What the service can be asked for. -/
inductive Request where
  /-- The components that it offers. -/
  | components
  /-- The state of its mirrors. -/
  | mirrors
  /-- The deployments of a status. -/
  | deployments (status : String)
  /-- That it delete a deployment. -/
  | delete (name : String)
  /-- How to connect to a cluster. -/
  | connection (cluster : String)
  deriving DecidableEq, Repr

/-- What the service answers to a request. -/
abbrev Request.Answer : Request → Type
  | components => List Offer
  | mirrors => MirrorReport
  | deployments _ => List Deployment
  | delete _ => Unit
  | connection _ => Connection

/-- An answer or failure, and the milliseconds until it is there. -/
structure Reply (α : Type) where
  result : Except Error α
  took : Nat

/-- Whether a result is that the service is busy. -/
def isBusy {α : Type} : Except Error α → Bool
  | .error e => e.isBusy
  | .ok _ => false

/-- Whether the reply asks to be asked again later. -/
def Reply.isBusy {α : Type} (reply : Reply α) : Bool :=
  Service.isBusy reply.result

/-- Something with a state that answers every request. -/
abbrev Responder (σ : Type) :=
  (request : Request) → σ → Reply request.Answer × σ

end Rollout.Service
