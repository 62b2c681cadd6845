import Rollout.Session

/-!
# Reports

A report is a session with the names in the listing that meant nothing. It can be shown as a summary
of what is chosen or as a listing of what there is. `Output` is what a command hands out in the end.
-/

namespace Rollout

open Service

/-- A session, and the names in the service's listing that belong to no component. -/
structure Report where
  session : Session
  ignored : List String
  deriving DecidableEq, Repr

/-- A chosen artifact in a summary. -/
structure SelectedVersion where
  /-- The text of its key. -/
  key : String
  version : String
  release : Option String
  edition : String
  size : UInt64
  deriving DecidableEq, Repr

/-- The chosen artifact as a summary tells it. -/
def Artifact.selected (a : Artifact) : SelectedVersion :=
  ⟨a.key.text, a.version, a.release, a.edition.name, a.size⟩

/-- What is known about a session. -/
structure Summary where
  flow : Flow
  selection : ByComponent (Option SelectedVersion)
  ready : Bool
  missing : List Component
  findings : List Finding
  size : UInt64
  lowVersion : Bool
  ignored : List String
  deriving DecidableEq, Repr

/-- The summary of a session. -/
def Session.summary (s : Session) (ignored : List String) : Summary where
  flow := s.flow
  selection := .ofFn fun c => (s.selection.get? c).map Artifact.selected
  ready := s.missing.isEmpty
  missing := s.missing
  findings := s.findings
  size := s.size
  lowVersion := s.isLowVersion
  ignored := ignored

/-- The summary of a report. -/
def Report.summary (report : Report) : Summary :=
  report.session.summary report.ignored

/-- An artifact in a listing. -/
structure ListedArtifact where
  /-- The text of its key. -/
  key : String
  /-- The version with its release. -/
  version : String
  edition : String
  size : UInt64
  /-- Whether it is chosen. -/
  selected : Bool
  deriving DecidableEq, Repr

/-- An artifact as a listing tells it. -/
def Artifact.listed (a : Artifact) (selected : Bool) : ListedArtifact :=
  ⟨a.key.text, a.displayVersion, a.edition.name, a.size, selected⟩

/-- The artifacts of each component. -/
structure Listing where
  components : ByComponent (Option (List ListedArtifact))
  deriving DecidableEq, Repr

/-- The artifacts of a session's catalog, the chosen ones marked. -/
def Session.listing (s : Session) : Listing where
  components := .ofFn fun c => (s.catalog.artifacts? c).map fun artifacts =>
    artifacts.map fun a => a.listed (s.selection.get? c = some a)

/-- How to connect to a cluster, without the password itself. -/
structure ConnectionSummary where
  cluster : String
  host : String
  port : UInt16
  database : String
  user : String
  hasPassword : Bool
  deriving DecidableEq, Repr

/-- A connection without its password. -/
def Service.Connection.summary (connection : Connection) : ConnectionSummary where
  cluster := connection.cluster
  host := connection.host
  port := connection.port
  database := connection.database
  user := connection.user
  hasPassword := connection.password ≠ ""

/-- What a command hands out. -/
inductive Output where
  | session (summary : Summary)
  | catalog (artifacts : Listing)
  | drafts (deployments : List Deployment)
  | connection (parameters : ConnectionSummary)
  | success (message : String)
  deriving DecidableEq, Repr

/-- Whether the command did all that it was to do. A session that is not ready is no success. -/
def Output.isSuccess : Output → Bool
  | session summary => summary.ready
  | _ => true

end Rollout
