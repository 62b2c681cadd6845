import Rollout.Document.Output
import Rollout.Terminal

/-!
# Outputs for people

An output is shown as lines of text, or as its document for other programs.
-/

namespace Rollout

/-- The version of a chosen artifact as a summary shows it. -/
def SelectedVersion.shownVersion (v : SelectedVersion) : String :=
  match v.release with
  | none => v.version
  | some release => v.version ++ "-" ++ release

/-- What to do about a fault of a mirror. -/
def MirrorFault.advice : MirrorFault → String
  | notConfigured => "is not configured; add it to the mirror list"
  | disabled => "is disabled; enable it and refresh"

namespace Summary

/-- The row of a component, if it is chosen or missing. -/
def row? (s : Summary) (c : Component) : Option (List String) :=
  match s.selection.get c with
  | some v => some [c.name, v.shownVersion, v.edition, mebibytes v.size]
  | none => if c ∈ s.missing then some [c.name, "missing", "-", "-"] else none

/-- The table of the components. -/
def table (s : Summary) : Table where
  header := ["Component", "Version", "Edition", "Size"]
  rows := Component.all.filterMap s.row?

/-- The verdict on the session, and what stands in its way. -/
def verdict (s : Summary) (colored : Bool) : List String :=
  if s.ready then [Paint.apply [.green, .bold] colored "Ready to proceed."]
  else
    Paint.apply [.red, .bold] colored
        ("Not ready: no installable artifact for " ++
          ", ".intercalate (s.missing.map Component.name)) ::
      s.findings.map fun f => "  • mirror " ++ f.mirror ++ " " ++ f.fault.advice

/-- The lines of a summary. -/
def lines (s : Summary) (colored : Bool) : List String :=
  s.table.lines ++
    ["Flow:           " ++ s.flow.name, "Estimated size: " ++ mebibytes s.size] ++
    (if s.lowVersion then
      [Paint.apply [.yellow] colored ("The selected core predates the optional components; " ++
        "agent and console are unavailable.")]
    else []) ++
    s.verdict colored

end Summary

namespace Listing

/-- The row of an artifact, a chosen one marked by a star. -/
def row (c : Component) (a : ListedArtifact) : List String :=
  [c.name, if a.selected then a.version ++ " *" else a.version, a.edition, mebibytes a.size, a.key]

/-- The rows of all artifacts, in listing order. -/
def rows (l : Listing) : List (List String) :=
  l.components.present.flatMap fun (c, artifacts) => artifacts.map (row c)

/-- The lines of a listing. -/
def lines (l : Listing) : List String :=
  if l.rows.isEmpty then ["No installable artifacts."]
  else Table.lines ⟨["Component", "Version", "Edition", "Size", "Key"], l.rows⟩

end Listing

/-- The lines of a list of drafts. -/
def draftLines (drafts : List Service.Deployment) : List String :=
  if drafts.isEmpty then ["No draft deployments."]
  else Table.lines ⟨["Name", "Status"], drafts.map fun d => [d.name, d.status]⟩

/-- The lines of a connection. -/
def ConnectionSummary.lines (c : ConnectionSummary) (colored : Bool) : List String :=
  [Paint.apply [.bold] colored c.cluster,
    "Host:     " ++ c.host ++ ":" ++ toString c.port.toNat,
    "User:     " ++ c.user] ++
  (if c.database = "" then [] else ["Database: " ++ c.database]) ++
  ["Password: " ++ if c.hasPassword then "set" else "empty"]

namespace Output

/-- The lines of an output. -/
def lines (colored : Bool) : Output → List String
  | session summary => summary.lines colored
  | catalog artifacts => artifacts.lines
  | drafts deployments => draftLines deployments
  | connection parameters => parameters.lines colored
  | success message => [Paint.apply [.green] colored message]

/-- The text of an output: its document, or its lines. -/
def text (json colored : Bool) (output : Output) : String :=
  let lines := if json then [output.document] else output.lines colored
  String.join (lines.map (· ++ "\n"))

end Output

end Rollout
