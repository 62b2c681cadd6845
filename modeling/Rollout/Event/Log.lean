import Rollout.Event
import Rollout.Text.Display

/-!
# Log records

Each event becomes one record of the log: a level, a fixed message, and fields. Texts that come from
elsewhere are quoted where they may be missing or are several.
-/

namespace Rollout

open Text

/-- A record of the log. The fixed message is the first field, the source of the event the
second. -/
structure LogRecord where
  level : Level
  fields : List (String × String)
  deriving DecidableEq, Repr

/-- A truth value in the log. -/
def logBool (b : Bool) : String :=
  if b then "true" else "false"

namespace Event

/-- The record of an event with a message of its own. -/
def record (e : Event) (level : Level) (message : String) (fields : List (String × String)) :
    LogRecord :=
  ⟨level, ("message", message) :: ("source", e.source.name) :: fields⟩

/-- The record of an event in the log. A failure that may go away by itself is logged as a warning
only. -/
def log (e : Event) : LogRecord :=
  match e with
  | fetchStarted url => e.record .info "Component listing requested" [("url", url)]
  | fetchRetrying attempt delay =>
    e.record .debug "Deployment service busy, retrying component listing"
      [("attempt", toString attempt.toNat), ("delay_ms", toString delay.toNat)]
  | loaded components artifacts ignored =>
    e.record .info "Catalog loaded"
      [("components", toString components.toNat), ("artifacts", toString artifacts.toNat),
        ("ignored", quotedList ignored)]
  | fetchFailed f =>
    e.record .error "Component listing failed"
      [("retryable", logBool f.retryable), ("code", quotedOption f.code), ("message", f.message),
        ("hint", quotedOption f.hint)]
  | recommended component version release =>
    e.record .info "Recommended version"
      [("component", component.name), ("version", version), ("release", quotedOption release)]
  | proxyResolved coreVersion proxyVersion edition =>
    e.record .info "Proxy follows core"
      [("core_version", coreVersion), ("proxy_version", proxyVersion), ("edition", edition.name)]
  | noCompatibleProxy coreVersion edition kept =>
    e.record .warn "No proxy matches the selected core"
      [("core_version", coreVersion), ("edition", edition.name), ("kept", quotedOption kept)]
  | diagnosticsFailed f =>
    e.record .error "Mirror diagnostics failed"
      [("retryable", logBool f.retryable), ("code", quotedOption f.code), ("message", f.message)]
  | diagnosticsCompleted totalKnown unavailable =>
    e.record .info "Mirror diagnostics completed"
      [("total_known", toString totalKnown.toNat), ("unavailable", quotedList unavailable)]
  | failed operation f =>
    e.record (if f.retryable then .warn else .error) "Operation failed"
      [("operation", operation), ("code", quotedOption f.code), ("message", f.message),
        ("hint", quotedOption f.hint)]
  | warning message context =>
    e.record .warn "Warning" [("message", message), ("context", quotedOption context)]
  | _ => e.record e.level "Application event" []

end Event

end Rollout
