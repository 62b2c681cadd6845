import Rollout.Component
import Rollout.Edition
import Rollout.Error

/-!
# Events

Operations tell what they do by events. An event belongs to one of four sources and has a level of
importance; what is shown or logged of it is decided elsewhere.
-/

namespace Rollout

/-- What is told about an error. -/
structure Failure where
  /-- The stable name of the cause. -/
  code : Option String
  message : String
  /-- What to do about it. -/
  hint : Option String
  /-- Whether the same operation may succeed when it is tried again. -/
  retryable : Bool
  deriving DecidableEq, Repr

/-- What is told about an error, without its domain. -/
def Error.failure (e : Error) : Failure :=
  ⟨some e.code, e.detail, e.hint, e.isRetryable⟩

/-- What an operation tells. -/
inductive Event where
  | warning (message : String) (context : Option String)
  | debug (message : String)
  | started (operation : String)
  | completed (operation : String) (success : Bool)
  | failed (operation : String) (failure : Failure)
  /-- The listing is asked for. -/
  | fetchStarted (url : String)
  /-- The service is busy and the listing will be asked for again. -/
  | fetchRetrying (attempt : UInt32) (delay : UInt64)
  /-- The listing has become a catalog. -/
  | loaded (components artifacts : UInt64) (ignored : List String)
  | fetchFailed (failure : Failure)
  | recommended (component : Component) (version : String) (release : Option String)
  /-- A proxy has been chosen with the engine. -/
  | proxyResolved (coreVersion proxyVersion : String) (edition : Edition)
  /-- No proxy fits the engine; the one that is named stays. -/
  | noCompatibleProxy (coreVersion : String) (edition : Edition) (kept : Option String)
  | selectionChanged (component : Component) (version : String)
  | readinessEvaluated (ready : Bool) (missing : List Component) (size : UInt64)
  /-- The state of the mirrors is asked for. -/
  | diagnosticsStarted (missing : List String)
  /-- The service is busy and the state of the mirrors will be asked for again. -/
  | statusRetrying (attempt : UInt32) (delay : UInt64)
  | diagnosticsCompleted (totalKnown : UInt64) (unavailable : List String)
  | diagnosticsFailed (failure : Failure)
  deriving DecidableEq, Repr

/-- The part of the program that an event comes from. -/
inductive Source where
  | general
  | catalog
  | resolver
  | mirror
  deriving DecidableEq, Repr

/-- The name of a source. -/
def Source.name : Source → String
  | general => "general"
  | catalog => "catalog"
  | resolver => "resolver"
  | mirror => "mirror"

/-- The source with this name. -/
def Source.ofName? (s : String) : Option Source :=
  [general, catalog, resolver, mirror].find? (·.name == s)

/-- How important an event is. -/
inductive Level where
  | error
  | warn
  | info
  | debug
  deriving DecidableEq, Repr

/-- The name of a level in the log. -/
def Level.name : Level → String
  | error => "ERROR"
  | warn => "WARN"
  | info => "INFO"
  | debug => "DEBUG"

namespace Event

/-- The source of an event. -/
def source : Event → Source
  | warning .. | debug _ | started _ | completed .. | failed .. => .general
  | fetchStarted _ | fetchRetrying .. | loaded .. | fetchFailed _ => .catalog
  | recommended .. | proxyResolved .. | noCompatibleProxy .. | selectionChanged ..
  | readinessEvaluated .. => .resolver
  | diagnosticsStarted _ | statusRetrying .. | diagnosticsCompleted .. | diagnosticsFailed _ =>
    .mirror

/-- The level of an event. -/
def level : Event → Level
  | failed .. | fetchFailed _ | diagnosticsFailed _ => .error
  | warning .. | noCompatibleProxy .. => .warn
  | debug _ | fetchRetrying .. | statusRetrying .. | readinessEvaluated .. => .debug
  | _ => .info

/-- The event of a busy service. -/
def retrying (source : Source) (attempt : UInt32) (delay : UInt64) : Event :=
  match source with
  | .mirror => statusRetrying attempt delay
  | _ => fetchRetrying attempt delay

/-- Whether the event tells of this failure. -/
def reports (failure : Failure) : Event → Bool
  | failed _ f | fetchFailed f | diagnosticsFailed f => f = failure
  | _ => false

end Event

end Rollout
