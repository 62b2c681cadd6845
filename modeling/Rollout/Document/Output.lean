import Rollout.Document.Artifact
import Rollout.Document.Payload
import Rollout.Json.Writer
import Rollout.Report

/-!
# Outputs as JSON

What a command hands out is written as a record of its kind and its content.
-/

namespace Rollout

open Json

/-- A finding is written as a record. -/
def Finding.toJson (f : Finding) : Json :=
  .object [("mirror_name", .string f.mirror), ("reason", .string f.fault.name)]

/-- What became of a proxy is written as a record. -/
def ProxyOutcome.toJson : ProxyOutcome → Json
  | unchanged => .object [("outcome", .string "unchanged")]
  | resolved proxy => .object [("outcome", .string "resolved"), ("proxy", proxy.toJson)]
  | noCandidate => .object [("outcome", .string "no-compatible-candidate")]

/-- A chosen version is written as a record. -/
def SelectedVersion.toJson (v : SelectedVersion) : Json :=
  .object [
    ("key", .string v.key),
    ("version", .string v.version),
    ("release", .ofOption .string v.release),
    ("edition", .string v.edition),
    ("estimated_size", .ofUInt64 v.size)]

/-- A summary is written as a record; the names without meaning are left out if there are none. -/
def Summary.toJson (s : Summary) : Json :=
  .object <|
    [("flow", s.flow.toJson),
      ("selection", s.selection.toJson SelectedVersion.toJson),
      ("ready", .bool s.ready),
      ("missing", .ofList Component.toJson s.missing),
      ("diagnostics", .ofList Finding.toJson s.findings),
      ("estimated_size_bytes", .ofUInt64 s.size),
      ("low_version", .bool s.lowVersion)] ++
    if s.ignored.isEmpty then [] else [("ignored_components", .ofList .string s.ignored)]

/-- A listed artifact is written as a record. -/
def ListedArtifact.toJson (a : ListedArtifact) : Json :=
  .object [
    ("key", .string a.key),
    ("version", .string a.version),
    ("edition", .string a.edition),
    ("estimated_size", .ofUInt64 a.size),
    ("selected", .bool a.selected)]

/-- A listing is written as a record. -/
def Listing.toJson (l : Listing) : Json :=
  .object [("components", l.components.toJson (.ofList ListedArtifact.toJson))]

/-- A connection is written as a record. -/
def ConnectionSummary.toJson (c : ConnectionSummary) : Json :=
  .object [
    ("cluster_name", .string c.cluster),
    ("host", .string c.host),
    ("port", .ofNat c.port.toNat),
    ("database", .string c.database),
    ("user", .string c.user),
    ("has_password", .bool c.hasPassword)]

namespace Output

/-- The kind of an output with its content. -/
def content : Output → String × Json
  | session summary => ("session", summary.toJson)
  | catalog artifacts => ("catalog", artifacts.toJson)
  | drafts deployments =>
    ("drafts", .object [("drafts", .ofList Service.Deployment.toJson deployments)])
  | connection parameters => ("connection", parameters.toJson)
  | success message => ("success", .string message)

/-- An output is written as a record of its kind and its content. -/
def toJson (output : Output) : Json :=
  .object [("type", .string output.content.1), ("data", output.content.2)]

/-- The text of an output for other programs. -/
def document (output : Output) : String :=
  output.toJson.pretty

end Output

end Rollout
