import Rollout.Compatibility
import Rollout.Completeness
import Rollout.Event
import Rollout.Flow
import Rollout.Mirror
import Rollout.Recommendation
import Rollout.Size

/-!
# Sessions

A session begins with the recommended artifacts of a catalog and then follows the choices that are
made. Each step gives the events that tell of it. The engine is recommended like any other
component, but it is chosen anew once the proxy is there, so that the two are checked against each
other.
-/

namespace Rollout

/-- How versions are recommended and judged. -/
structure ResolverPolicy where
  /-- The stable line that is preferred for the engine. -/
  preferredLine : Option StableLine
  /-- The major version below which an engine is too old for the optional components. -/
  lowVersionMajor : UInt32
  deriving DecidableEq, Repr

/-- The policy without a preferred line. -/
def ResolverPolicy.standard : ResolverPolicy :=
  ⟨none, 4⟩

/-- A catalog, what is chosen from it, and what is known about the mirrors. -/
structure Session where
  catalog : Catalog
  flow : Flow
  policy : ResolverPolicy
  selection : Selection
  /-- The components that count toward the size. -/
  active : List Component
  /-- The findings of the last look at the mirrors. -/
  findings : List Finding
  deriving DecidableEq, Repr

namespace Session

/-- Chooses an engine, with the event that tells what became of the proxy. -/
def chooseCore (s : Session) (core : Artifact) : Session × ProxyOutcome × List Event :=
  let (selection, outcome) := changeCore s.catalog s.selection core
  let events : List Event := match outcome with
    | .unchanged => []
    | .resolved proxy => [.proxyResolved core.version proxy.version core.edition]
    | .noCandidate =>
      [.noCompatibleProxy core.version core.edition
        ((selection.get? .proxy).map Artifact.displayVersion)]
  ({ s with selection }, outcome, events)

/-- The recommended artifact of each component. -/
def recommendations (catalog : Catalog) (policy : ResolverPolicy) : ByComponent (Option Artifact) :=
  .ofFn (recommend catalog policy.preferredLine)

/-- A new session, with the events that tell of its recommendations. -/
def start (catalog : Catalog) (flow : Flow) (policy : ResolverPolicy) : Session × List Event :=
  let recommended := recommendations catalog policy
  let events : List Event := recommended.present.map fun (c, a) =>
    .recommended c a.version a.release
  let s : Session := {
    catalog, flow, policy
    selection := ⟨recommended⟩
    active := flow.initiallyActive
    findings := [] }
  match recommended.core with
  | none => (s, events)
  | some core =>
    let (s, _, more) := { s with selection := s.selection.clear .core }.chooseCore core
    (s, events ++ more)

/-- The artifact that a choice names. -/
def find (s : Session) (c : Component) (key : Key) : Except SelectionError Artifact :=
  match s.catalog.artifacts? c with
  | none => .error (.componentNotInCatalog c.name)
  | some artifacts =>
    match artifacts.find? (·.hasKey key) with
    | none => .error (.unknownArtifact c.name key.text)
    | some a => .ok a

/-- Chooses an artifact of the catalog, with the events that tell of it. -/
def choose (s : Session) (c : Component) (a : Artifact) : Session × ProxyOutcome × List Event :=
  let changed : Event := .selectionChanged c a.displayVersion
  match c with
  | .core =>
    let (s, outcome, events) := s.chooseCore a
    (s, outcome, changed :: events)
  | c => ({ s with selection := s.selection.set c a }, .unchanged, [changed])

/-- Chooses the artifact of a component that has the key. -/
def select (s : Session) (c : Component) (key : Key) :
    Except SelectionError (Session × ProxyOutcome × List Event) :=
  (s.find c key).map (s.choose c)

/-- The required components that are missing. -/
def missing (s : Session) : List Component :=
  missingComponents s.catalog s.selection s.flow.required

/-- Whether nothing that is required is missing. -/
def isReady (s : Session) : Bool :=
  isComplete s.catalog s.selection s.flow.required

/-- The estimated size of what is chosen for the active components. -/
def size (s : Session) : UInt64 :=
  totalSize s.selection s.active

/-- The event that tells whether the session is ready. -/
def readiness (s : Session) : Event :=
  .readinessEvaluated s.isReady s.missing s.size

/-- Lets these components count toward the size. -/
def setActive (s : Session) (active : List Component) : Session :=
  { s with active := Component.normalized active }

/-- Keeps the findings of a look at the mirrors. -/
def setFindings (s : Session) (findings : List Finding) : Session :=
  { s with findings }

/-- Whether the chosen engine is too old for the optional components, judged by the first character
of its version. -/
def isLowVersion (s : Session) : Bool :=
  match (s.selection.get? .core).bind Artifact.majorDigit? with
  | some major => major < s.policy.lowVersionMajor.toNat
  | none => false

end Session

end Rollout
