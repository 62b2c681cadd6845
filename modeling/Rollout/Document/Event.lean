import Rollout.Document.Artifact
import Rollout.Event

/-!
# Events as JSON

An event is written as an object with its source and its content, and the content as a record whose
first field, `type`, names the kind of event. Since the kind decides on the other fields, the
content is buffered before they are read.
-/

namespace Rollout

open Json

namespace Failure

/-- A failure is written as a record; a missing code or hint is left out. -/
def toJson (f : Failure) : Json :=
  .object <|
    (f.code.map fun code => ("code", .string code)).toList ++
    [("message", .string f.message)] ++
    (f.hint.map fun hint => ("hint", .string hint)).toList ++
    [("retryable", .bool f.retryable)]

/-- Reads a failure. -/
def ofJson? (j : Json) : Option Failure := do
  match ← slots? ["code", "message", "hint", "retryable"] j with
  | [code, message, hint, retryable] =>
    return {
      code := ← code.nullable asString
      message := ← message.required asString
      hint := ← hint.nullable asString
      retryable := ← retryable.required asBool }
  | _ => none

end Failure

namespace Event

/-- The kind of an event with its fields. -/
def content : Event → String × List (String × Json)
  | warning message context =>
    ("Warning", [("message", .string message), ("context", .ofOption .string context)])
  | debug message => ("DebugLog", [("message", .string message)])
  | started operation => ("OperationStarted", [("operation", .string operation)])
  | completed operation success =>
    ("OperationCompleted", [("operation", .string operation), ("success", .bool success)])
  | failed operation failure =>
    ("OperationFailed", [("operation", .string operation), ("failure", failure.toJson)])
  | fetchStarted url => ("FetchStarted", [("url", .string url)])
  | fetchRetrying attempt delay =>
    ("FetchRetrying", [("attempt", .ofNat attempt.toNat), ("delay_ms", .ofUInt64 delay)])
  | loaded components artifacts ignored =>
    ("Loaded", [("components", .ofUInt64 components), ("artifacts", .ofUInt64 artifacts),
      ("ignored", .ofList .string ignored)])
  | fetchFailed failure => ("FetchFailed", [("failure", failure.toJson)])
  | recommended component version release =>
    ("Recommended", [("component", component.toJson), ("version", .string version),
      ("release", .ofOption .string release)])
  | proxyResolved coreVersion proxyVersion edition =>
    ("ProxyResolved", [("core_version", .string coreVersion),
      ("proxy_version", .string proxyVersion), ("edition", edition.toJson)])
  | noCompatibleProxy coreVersion edition kept =>
    ("NoCompatibleProxy", [("core_version", .string coreVersion), ("edition", edition.toJson),
      ("kept", .ofOption .string kept)])
  | selectionChanged component version =>
    ("SelectionChanged", [("component", component.toJson), ("version", .string version)])
  | readinessEvaluated ready missing size =>
    ("ReadinessEvaluated", [("ready", .bool ready), ("missing", .ofList Component.toJson missing),
      ("estimated_size_bytes", .ofUInt64 size)])
  | diagnosticsStarted missing =>
    ("DiagnosticsStarted", [("missing", .ofList .string missing)])
  | statusRetrying attempt delay =>
    ("StatusRetrying", [("attempt", .ofNat attempt.toNat), ("delay_ms", .ofUInt64 delay)])
  | diagnosticsCompleted totalKnown unavailable =>
    ("DiagnosticsCompleted", [("total_known", .ofUInt64 totalKnown),
      ("unavailable", .ofList .string unavailable)])
  | diagnosticsFailed failure => ("DiagnosticsFailed", [("failure", failure.toJson)])

/-- An event is written as a record of its source and its content. -/
def toJson (e : Event) : Json :=
  let (kind, fields) := e.content
  .object [
    ("domain", .string e.source.name),
    ("event", .object (("type", .string kind) :: fields))]

/-- The fields of each kind of event, by source. -/
def fieldsOf? : Source → String → Option (List String)
  | .general, "Warning" => some ["message", "context"]
  | .general, "DebugLog" => some ["message"]
  | .general, "OperationStarted" => some ["operation"]
  | .general, "OperationCompleted" => some ["operation", "success"]
  | .general, "OperationFailed" => some ["operation", "failure"]
  | .catalog, "FetchStarted" => some ["url"]
  | .catalog, "FetchRetrying" => some ["attempt", "delay_ms"]
  | .catalog, "Loaded" => some ["components", "artifacts", "ignored"]
  | .catalog, "FetchFailed" => some ["failure"]
  | .resolver, "Recommended" => some ["component", "version", "release"]
  | .resolver, "ProxyResolved" => some ["core_version", "proxy_version", "edition"]
  | .resolver, "NoCompatibleProxy" => some ["core_version", "edition", "kept"]
  | .resolver, "SelectionChanged" => some ["component", "version"]
  | .resolver, "ReadinessEvaluated" => some ["ready", "missing", "estimated_size_bytes"]
  | .mirror, "DiagnosticsStarted" => some ["missing"]
  | .mirror, "StatusRetrying" => some ["attempt", "delay_ms"]
  | .mirror, "DiagnosticsCompleted" => some ["total_known", "unavailable"]
  | .mirror, "DiagnosticsFailed" => some ["failure"]
  | _, _ => none

/-- Reads the fields of a kind of event. -/
def ofFields? (kind : String) (fields : List Slot) : Option Event := do
  match kind, fields with
  | "Warning", [message, context] =>
    return warning (← message.required asString) (← context.nullable asString)
  | "DebugLog", [message] => return debug (← message.required asString)
  | "OperationStarted", [operation] => return started (← operation.required asString)
  | "OperationCompleted", [operation, success] =>
    return completed (← operation.required asString) (← success.required asBool)
  | "OperationFailed", [operation, failure] =>
    return failed (← operation.required asString) (← failure.required Failure.ofJson?)
  | "FetchStarted", [url] => return fetchStarted (← url.required asString)
  | "FetchRetrying", [attempt, delay] =>
    return fetchRetrying (← attempt.required asUInt32) (← delay.required asUInt64)
  | "Loaded", [components, artifacts, ignored] =>
    return loaded (← components.required asUInt64) (← artifacts.required asUInt64)
      (← ignored.required (asList asString))
  | "FetchFailed", [failure] => return fetchFailed (← failure.required Failure.ofJson?)
  | "Recommended", [component, version, release] =>
    return recommended (← component.required Component.ofJson?) (← version.required asString)
      (← release.nullable asString)
  | "ProxyResolved", [coreVersion, proxyVersion, edition] =>
    return proxyResolved (← coreVersion.required asString) (← proxyVersion.required asString)
      (← edition.required Edition.ofJson?)
  | "NoCompatibleProxy", [coreVersion, edition, kept] =>
    return noCompatibleProxy (← coreVersion.required asString) (← edition.required Edition.ofJson?)
      (← kept.nullable asString)
  | "SelectionChanged", [component, version] =>
    return selectionChanged (← component.required Component.ofJson?) (← version.required asString)
  | "ReadinessEvaluated", [ready, components, size] =>
    return readinessEvaluated (← ready.required asBool)
      (← components.required (asList Component.ofJson?)) (← size.required asUInt64)
  | "DiagnosticsStarted", [components] =>
    return diagnosticsStarted (← components.required (asList asString))
  | "StatusRetrying", [attempt, delay] =>
    return statusRetrying (← attempt.required asUInt32) (← delay.required asUInt64)
  | "DiagnosticsCompleted", [totalKnown, unavailable] =>
    return diagnosticsCompleted (← totalKnown.required asUInt64)
      (← unavailable.required (asList asString))
  | "DiagnosticsFailed", [failure] => return diagnosticsFailed (← failure.required Failure.ofJson?)
  | _, _ => none

/-- Reads the content of an event of a source. -/
def ofContent? (source : Source) (content : Json) : Option Event := do
  let kind ← match content with
    | .object members => (members.lookup "type").bind asString
    | .array (kind :: _) => asString kind
    | _ => none
  let fields ← fieldsOf? source kind
  match ← slots? ("type" :: fields) content with
  | _ :: slots => ofFields? kind slots
  | [] => none

/-- Reads an event. -/
def ofJson? (j : Json) : Option Event := do
  match ← slots? ["domain", "event"] j with
  | [source, content] =>
    let source ← source.required (asNamed Source.ofName?)
    ofContent? source (← content.required (asBuffered 1))
  | _ => none

end Event

end Rollout
