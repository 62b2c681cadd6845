import Rollout.Document.Payload
import Rollout.Http.Status
import Rollout.Http.Url
import Rollout.Json.Reader
import Rollout.Service.Request

/-!
# The endpoints of the service

Each request has a method and an address below the base address. What comes back is a status and a
body, and the status decides first: 503 is a busy service, any other status that is no success is an
error, and only then the envelope in the body counts.
-/

namespace Rollout.Http

open Json Service

/-- A status with the text of a body. How the bytes that came are made into text is settled by
whatever carries the response (`Text.Encoding.decodeBody`). -/
structure Response where
  status : UInt16
  text : String
  deriving DecidableEq, Repr

/-- What an unsuccessful answer says of itself: the message of its envelope, or its status. -/
def Response.reason (r : Response) : String :=
  match (read? r.text).bind (Envelope.ofJson? (asBuffered 1)) with
  | some envelope => if envelope.message = "" then Status.text r.status.toNat else envelope.message
  | none => Status.text r.status.toNat

/-- The data in an answer, `none` if the envelope has none. -/
def Response.data {α : Type} (r : Response) (url : String) (read : Json → Option α) :
    Except NetworkError (Option α) :=
  if r.status = 503 then .error (.serviceBusy url)
  else if Status.isSuccess r.status.toNat = false then .error (.httpStatus r.status r.reason)
  else
    match (read? r.text).bind (Envelope.ofJson? read) with
    | none => .error (.malformed url "the body is not an envelope with the expected data")
    | some envelope =>
      if envelope.success then .ok envelope.data
      else .error (.rejected envelope.code envelope.message)

end Rollout.Http

namespace Rollout.Service.Request

open Http Json

/-- The method of a request. -/
def method : Request → String
  | delete _ => "DELETE"
  | _ => "GET"

/-- The address of a request below the base address. -/
def url (base : Url) : Request → Url
  | components => base.extend ["api", "v1", "components"]
  | mirrors => base.extend ["api", "v1", "mirrors"]
  | deployments status =>
    (base.extend ["api", "v1", "deployments"]).withPair "task_status" status
  | delete name => base.extend ["api", "v1", "deployments", name]
  | connection cluster => base.extend ["api", "v1", "connections", cluster]

/-- What an answer to a request means. Lists and the state of the mirrors may be missing, and are
empty then; a connection must be there. -/
def interpret (url : String) : (request : Request) → Response → Except NetworkError request.Answer
  | components, r => do
    return ((← r.data url (Page.ofJson? Offer.ofJson?)).getD .empty).items
  | mirrors, r => do
    return (← r.data url MirrorReport.ofJson?).getD .empty
  | deployments _, r => do
    return ((← r.data url (Page.ofJson? Deployment.ofJson?)).getD .empty).items
  | delete _, r => do
    discard (r.data url (asBuffered 1))
  | connection _, r => do
    match ← r.data url Connection.ofJson? with
    | some c => return c
    | none => .error (.malformed url "response has no data")

end Rollout.Service.Request
