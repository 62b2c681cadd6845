import Rollout.Http.Client
import Rollout.Text.Encoding

/-!
# Playing back answers

Prepared answers are given to requests in order, and the requests are kept. When the answers are
used up, every further request is answered that none was prepared.
-/

namespace Rollout.Http

open Service Text

/-- A status with the bytes of a body. -/
structure Message where
  status : UInt16
  body : List UInt8
  deriving DecidableEq, Repr

/-- The response that a message is, where it names no encoding. -/
def Message.response (m : Message) : Response :=
  ⟨m.status, if Status.isBodiless m.status.toNat then "" else Encoding.utf8.decodeBody m.body⟩

/-- A prepared answer. -/
inductive Prepared where
  | response (message : Message)
  /-- The connection is closed without an answer. -/
  | close
  /-- No answer ever comes. -/
  | silence
  deriving DecidableEq, Repr

/-- Prepared answers, and the requests that have come, latest first. -/
structure Playback where
  /-- Whether nobody listens at all. -/
  refuses : Bool
  prepared : List Prepared
  requests : List String
  deriving DecidableEq, Repr

/-- The answer that none was prepared. -/
def unprepared : Response :=
  ⟨500, "no scripted response"⟩

/-- Answers from what is prepared. -/
def Playback.transport : Transport Playback := fun request url p =>
  if p.refuses then (.failed ⟨false, true⟩, p)
  else
    let p := { p with requests := (request.method ++ " " ++ url.target) :: p.requests }
    match p.prepared with
    | [] => (.answered unprepared, p)
    | .response m :: rest => (.answered m.response, { p with prepared := rest })
    | .close :: rest => (.failed ⟨false, false⟩, { p with prepared := rest })
    | .silence :: rest => (.failed ⟨true, false⟩, { p with prepared := rest })

end Rollout.Http
