import Rollout.Operation
import Rollout.Report

/-!
# Drafts and connections

A draft is a deployment that was begun and not finished. Only what the service lists as a draft is
deleted.
-/

namespace Rollout.Operation

open Service

/-- The drafts that the service has. -/
def listDrafts : Operation (Except Error (List Deployment)) := do
  match ← question (.deployments "DRAFT") with
  | .error e => return .error e
  | .ok drafts =>
    tellAll [.debug ("found " ++ toString drafts.length ++ " draft deployment(s)")]
    return .ok drafts

/-- Deletes the draft of this name. -/
def discardDraft (name : String) : Operation (Except Error Unit) := do
  let operation := "discard_draft " ++ name
  tellAll [.started operation]
  match ← question (.deployments "DRAFT") with
  | .error e => return .error e
  | .ok drafts =>
    if drafts.any (·.name == name) then
      match ← question (.delete name) with
      | .error e => return .error e
      | .ok () =>
        tellAll [.completed operation true]
        return .ok ()
    else
      let e := Error.operation (.draftNotFound name)
      tellAll [.failed operation e.failure]
      return .error e

/-- How to connect to a cluster, without the password. -/
def connectionInfo (cluster : String) : Operation (Except Error ConnectionSummary) := do
  return (← question (.connection cluster)).map Connection.summary

end Rollout.Operation
