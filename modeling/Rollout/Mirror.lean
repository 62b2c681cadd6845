import Rollout.Service.Payload

/-!
# Findings about mirrors

When artifacts are missing, the state of the mirrors may say why. A mirror that should be there and
is not listed is not configured; a mirror that is listed and not available is disabled.
-/

namespace Rollout

open Service

/-- The mirrors that should be there. -/
structure MirrorPolicy where
  /-- Their names. -/
  known : List String
  /-- The number of mirrors below which known ones are looked for. -/
  expectedCount : UInt64
  deriving DecidableEq, Repr

/-- The mirrors that a deployment usually has. -/
def MirrorPolicy.standard : MirrorPolicy :=
  ⟨["community.stable", "development-kit"], 2⟩

/-- What is wrong with a mirror. -/
inductive MirrorFault where
  | notConfigured
  | disabled
  deriving DecidableEq, Repr

/-- The name of a fault. -/
def MirrorFault.name : MirrorFault → String
  | notConfigured => "not-configured"
  | disabled => "disabled"

/-- A mirror with what is wrong with it. -/
structure Finding where
  mirror : String
  fault : MirrorFault
  deriving DecidableEq, Repr

/-- Whether the report lists a mirror of this name. -/
def Service.Page.lists (report : MirrorReport) (name : String) : Bool :=
  report.items.any (·.name == name)

/-- The findings of a report: the known mirrors that are not configured, then the listed ones that
are disabled. -/
def findings (policy : MirrorPolicy) (report : MirrorReport) : List Finding :=
  let absent :=
    if report.total < policy.expectedCount then
      (policy.known.filter fun name => !report.lists name).map (⟨·, .notConfigured⟩)
    else []
  let disabled :=
    if 0 < report.total then
      (report.items.filter fun m => !m.available).map (⟨·.name, .disabled⟩)
    else []
  absent ++ disabled

end Rollout
