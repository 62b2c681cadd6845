import Rollout.Event
import Rollout.Terminal

/-!
# Status lines

While an operation runs, some of its events are shown to the person who waits for it, each as one
line. Lines of detail are shown only if they are asked for.
-/

namespace Rollout

/-- What a status line is about. -/
inductive StatusKind where
  | progress
  | warning
  | detail
  deriving DecidableEq, Repr

/-- How status lines are shown. -/
structure StatusStyle where
  colored : Bool
  /-- Whether lines of detail are shown. -/
  detailed : Bool
  /-- Whether no line is shown at all. -/
  quiet : Bool
  deriving DecidableEq, Repr

namespace Event

/-- The line about a busy service. -/
def busyLine (service : String) (attempt : UInt32) (delay : UInt64) : String :=
  service ++ " service is busy, retrying in " ++ toString delay.toNat ++ " ms (attempt " ++
    toString attempt.toNat ++ ")"

/-- The status line of an event, if it has one. -/
def status? : Event → Option (StatusKind × String)
  | fetchRetrying attempt delay => some (.progress, busyLine "Deployment" attempt delay)
  | loaded components artifacts _ =>
    some (.detail, "Loaded " ++ toString artifacts.toNat ++ " artifact(s) across " ++
      toString components.toNat ++ " component(s)")
  | noCompatibleProxy coreVersion edition kept =>
    let kept := match kept with
      | none => "none"
      | some version => "keeping " ++ version
    some (.warning, "No " ++ edition.name ++ " proxy matches core " ++ coreVersion ++
      " (" ++ kept ++ ")")
  | proxyResolved coreVersion proxyVersion _ =>
    some (.detail, "Proxy " ++ proxyVersion ++ " follows core " ++ coreVersion)
  | diagnosticsStarted missing =>
    some (.progress, "Checking mirrors for missing components: " ++ ", ".intercalate missing)
  | statusRetrying attempt delay => some (.progress, busyLine "Mirror" attempt delay)
  | warning message context =>
    some (.warning, match context with
      | none => message
      | some context => message ++ ": " ++ context)
  | debug message => some (.detail, message)
  | _ => none

/-- What is shown of an event. -/
def statusText (style : StatusStyle) (e : Event) : String :=
  if style.quiet then ""
  else match e.status? with
    | none => ""
    | some (.progress, line) => Paint.apply [.cyan] style.colored line ++ "\n"
    | some (.warning, line) => Paint.apply [.yellow] style.colored ("Warning: " ++ line) ++ "\n"
    | some (.detail, line) =>
      if style.detailed then Paint.apply [.dim] style.colored line ++ "\n" else ""

end Event

end Rollout
