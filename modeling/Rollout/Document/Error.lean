import Rollout.Error
import Rollout.Json.Decode

/-!
# Errors as JSON

An error is written as an object whose only member names its domain, and within it the cause in the
same way; what a cause tells of is a record.
-/

namespace Rollout

open Json

/-- A tag with its content. -/
def Json.tagged (tag : String) (content : Json) : Json :=
  .object [(tag, content)]

/-- A record whose fields are texts. -/
def Json.texts (fields : List (String × String)) : Json :=
  .object (fields.map fun (name, s) => (name, .string s))

/-- Reads a record of one text. -/
def Json.asText1 (field : String) (j : Json) : Option String := do
  match ← slots? [field] j with
  | [s] => s.required asString
  | _ => none

/-- Reads a record of two texts. -/
def Json.asText2 (first second : String) (j : Json) : Option (String × String) := do
  match ← slots? [first, second] j with
  | [s, t] => return (← s.required asString, ← t.required asString)
  | _ => none

namespace NetworkError

/-- A cause in the network. -/
def toJson : NetworkError → Json
  | timeout url => tagged "Timeout" (texts [("url", url)])
  | requestFailed reason => tagged "RequestFailed" (.string reason)
  | connectionRefused reason => tagged "ConnectionRefused" (.string reason)
  | invalidUrl reason => tagged "InvalidUrl" (.string reason)
  | serviceBusy url => tagged "ServiceBusy" (texts [("url", url)])
  | httpStatus status reason =>
    tagged "HttpError" (.object [("status", .ofNat status.toNat), ("message", .string reason)])
  | rejected code reason =>
    tagged "ApiError" (.object [("code", .int code.toInt), ("message", .string reason)])
  | malformed url reason =>
    tagged "InvalidResponse" (texts [("url", url), ("message", reason)])

/-- Reads a cause in the network. -/
def ofJson? (j : Json) : Option NetworkError := do
  match ← asTagged j with
  | ("Timeout", some content) => return timeout (← asText1 "url" content)
  | ("RequestFailed", some content) => return requestFailed (← asString content)
  | ("ConnectionRefused", some content) => return connectionRefused (← asString content)
  | ("InvalidUrl", some content) => return invalidUrl (← asString content)
  | ("ServiceBusy", some content) => return serviceBusy (← asText1 "url" content)
  | ("HttpError", some content) =>
    match ← slots? ["status", "message"] content with
    | [status, reason] =>
      return httpStatus (← status.required asUInt16) (← reason.required asString)
    | _ => none
  | ("ApiError", some content) =>
    match ← slots? ["code", "message"] content with
    | [code, reason] => return rejected (← code.required asInt64) (← reason.required asString)
    | _ => none
  | ("InvalidResponse", some content) =>
    let (url, reason) ← asText2 "url" "message" content
    return malformed url reason
  | _ => none

end NetworkError

namespace CatalogError

/-- A cause in the catalog. -/
def toJson : CatalogError → Json
  | unknownComponent name => tagged "UnknownComponent" (texts [("name", name)])
  | invalidEdition value => tagged "InvalidEdition" (texts [("value", value)])
  | invalidOrigin value => tagged "InvalidOrigin" (texts [("value", value)])
  | invalidStableLine value => tagged "InvalidStableLine" (texts [("value", value)])

/-- Reads a cause in the catalog. -/
def ofJson? (j : Json) : Option CatalogError := do
  match ← asTagged j with
  | ("UnknownComponent", some content) => return unknownComponent (← asText1 "name" content)
  | ("InvalidEdition", some content) => return invalidEdition (← asText1 "value" content)
  | ("InvalidOrigin", some content) => return invalidOrigin (← asText1 "value" content)
  | ("InvalidStableLine", some content) => return invalidStableLine (← asText1 "value" content)
  | _ => none

end CatalogError

namespace SelectionError

/-- A cause in the choice. -/
def toJson : SelectionError → Json
  | invalidKey key => tagged "InvalidKey" (texts [("key", key)])
  | componentNotInCatalog component =>
    tagged "ComponentNotInCatalog" (texts [("component", component)])
  | unknownArtifact component key =>
    tagged "UnknownArtifact" (texts [("component", component), ("key", key)])

/-- Reads a cause in the choice. -/
def ofJson? (j : Json) : Option SelectionError := do
  match ← asTagged j with
  | ("InvalidKey", some content) => return invalidKey (← asText1 "key" content)
  | ("ComponentNotInCatalog", some content) =>
    return componentNotInCatalog (← asText1 "component" content)
  | ("UnknownArtifact", some content) =>
    let (component, key) ← asText2 "component" "key" content
    return unknownArtifact component key
  | _ => none

end SelectionError

namespace ConfigError

/-- A cause in the configuration. -/
def toJson : ConfigError → Json
  | notFound path => tagged "NotFound" (texts [("path", path)])
  | invalid reason => tagged "Invalid" (texts [("message", reason)])
  | unreadable reason => tagged "ParseError" (texts [("message", reason)])
  | missingField field => tagged "MissingField" (texts [("field", field)])
  | invalidValue field value => tagged "InvalidValue" (texts [("field", field), ("value", value)])
  | variableNotFound name => tagged "EnvVarNotFound" (texts [("var", name)])

/-- Reads a cause in the configuration. -/
def ofJson? (j : Json) : Option ConfigError := do
  match ← asTagged j with
  | ("NotFound", some content) => return notFound (← asText1 "path" content)
  | ("Invalid", some content) => return invalid (← asText1 "message" content)
  | ("ParseError", some content) => return unreadable (← asText1 "message" content)
  | ("MissingField", some content) => return missingField (← asText1 "field" content)
  | ("InvalidValue", some content) =>
    let (field, value) ← asText2 "field" "value" content
    return invalidValue field value
  | ("EnvVarNotFound", some content) => return variableNotFound (← asText1 "var" content)
  | _ => none

end ConfigError

namespace OperationError

/-- A cause in an operation. -/
def toJson : OperationError → Json
  | missingPart part => tagged "MissingComponent" (texts [("component", part)])
  | draftNotFound name => tagged "DraftNotFound" (texts [("name", name)])

/-- Reads a cause in an operation. -/
def ofJson? (j : Json) : Option OperationError := do
  match ← asTagged j with
  | ("MissingComponent", some content) => return missingPart (← asText1 "component" content)
  | ("DraftNotFound", some content) => return draftNotFound (← asText1 "name" content)
  | _ => none

end OperationError

namespace Error

/-- An error. -/
def toJson : Error → Json
  | network cause => tagged "Network" cause.toJson
  | catalog cause => tagged "Catalog" cause.toJson
  | selection cause => tagged "Selection" cause.toJson
  | config cause => tagged "Config" cause.toJson
  | operation cause => tagged "Ops" cause.toJson
  | internal reason => tagged "Internal" (.string reason)
  | cancelled => .string "Cancelled"

/-- Reads an error. -/
def ofJson? (j : Json) : Option Error := do
  match ← asTagged j with
  | ("Network", some content) => return network (← NetworkError.ofJson? content)
  | ("Catalog", some content) => return catalog (← CatalogError.ofJson? content)
  | ("Selection", some content) => return selection (← SelectionError.ofJson? content)
  | ("Config", some content) => return config (← ConfigError.ofJson? content)
  | ("Ops", some content) => return operation (← OperationError.ofJson? content)
  | ("Internal", some content) => return internal (← asString content)
  | ("Cancelled", none) | ("Cancelled", some .null) => return cancelled
  | _ => none

end Error

end Rollout
