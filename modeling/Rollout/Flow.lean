import Rollout.Component

/-!
# Flows

What the deployment is for decides which components must be installable.
-/

namespace Rollout

/-- The purpose of a deployment. -/
inductive Flow where
  /-- A new deployment of engine, proxy and management server. -/
  | install
  /-- An upgrade of a management server that is already there. -/
  | upgrade
  deriving DecidableEq, Repr, Inhabited

namespace Flow

/-- The components that must have an installable artifact. -/
def required : Flow → List Component
  | install => [.core, .proxy, .manager]
  | upgrade => [.manager]

/-- The components that count toward the size from the start. -/
def initiallyActive : Flow → List Component
  | install => Component.all
  | upgrade => upgrade.required

/-- The name of a flow on the command line and in text output. -/
def name : Flow → String
  | install => "install"
  | upgrade => "upgrade"

/-- The flow with this name. -/
def ofName? (s : String) : Option Flow :=
  [install, upgrade].find? (·.name == s)

/-- The name of a flow in JSON output. -/
def longName : Flow → String
  | install => "fresh-install"
  | upgrade => "upgrade-only"

/-- The flow with this name in JSON output. -/
def ofLongName? (s : String) : Option Flow :=
  [install, upgrade].find? (·.longName == s)

/-- A flow is found by its long name. -/
@[simp] theorem ofLongName?_longName (flow : Flow) : ofLongName? flow.longName = some flow := by
  cases flow <;> decide

end Flow

end Rollout
