import Rollout.Service.Request

/-!
# A scripted service

A scripted service gives prepared replies, in order for each kind of request. The last reply of a
kind is given again and again.
-/

namespace Rollout.Service

/-- The replies that are prepared for each kind of request. -/
structure Script where
  components : List (Reply (List Offer))
  mirrors : List (Reply MirrorReport)
  deployments : List (Reply (List Deployment))
  delete : List (Reply Unit)
  connection : List (Reply Connection)

/-- The next of some prepared replies, and those that remain. -/
def nextReply {α : Type} (kind : String) (replies : List (Reply α)) :
    Reply α × List (Reply α) :=
  match replies with
  | [] => (⟨.error (.internal ("no answer for " ++ kind)), 0⟩, [])
  | [reply] => (reply, [reply])
  | reply :: rest => (reply, rest)

/-- Answers from the script. -/
def Script.responder : Responder Script
  | .components, script =>
    let (reply, rest) := nextReply "catalog" script.components
    (reply, { script with components := rest })
  | .mirrors, script =>
    let (reply, rest) := nextReply "mirrors" script.mirrors
    (reply, { script with mirrors := rest })
  | .deployments _, script =>
    let (reply, rest) := nextReply "deployments" script.deployments
    (reply, { script with deployments := rest })
  | .delete _, script =>
    let (reply, rest) := nextReply "delete" script.delete
    (reply, { script with delete := rest })
  | .connection _, script =>
    let (reply, rest) := nextReply "connection" script.connection
    (reply, { script with connection := rest })

/-- The number of prepared replies. -/
def Script.length (script : Script) : Nat :=
  script.components.length + script.mirrors.length + script.deployments.length +
    script.delete.length + script.connection.length

end Rollout.Service
