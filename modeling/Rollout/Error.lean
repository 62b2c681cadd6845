/-!
# Errors

Every failure is a cause in one of five domains, or an internal error, or a cancellation. A cause
has a `message` for people, a stable `code`, sometimes a `hint` on what to do, and says by
`isRetryable` whether the same operation may succeed when it is tried again. `Error.detail` is the
message alone, `Error.message` puts the domain in front of it.
-/

namespace Rollout

/-- A failure to get an answer from the deployment service. -/
inductive NetworkError where
  /-- No answer came in time. -/
  | timeout (url : String)
  /-- The request broke off. -/
  | requestFailed (reason : String)
  /-- Nobody listens at the address. -/
  | connectionRefused (reason : String)
  /-- The address of the service cannot be used. -/
  | invalidUrl (reason : String)
  /-- The service still prepares itself and asks to be tried later. -/
  | serviceBusy (url : String)
  /-- The service answered with a status that is no success. -/
  | httpStatus (status : UInt16) (reason : String)
  /-- The service answered, and its envelope says that the request failed. -/
  | rejected (code : Int64) (reason : String)
  /-- The answer is not of the form that the endpoint promises. -/
  | malformed (url : String) (reason : String)
  deriving DecidableEq, Repr

/-- A value of the catalog's vocabulary that has no meaning. -/
inductive CatalogError where
  /-- No component has this name. -/
  | unknownComponent (name : String)
  /-- No edition has this name. -/
  | invalidEdition (value : String)
  /-- No origin has this name. -/
  | invalidOrigin (value : String)
  /-- A stable line has three segments, and this text has not. -/
  | invalidStableLine (value : String)
  deriving DecidableEq, Repr

/-- A choice that does not name an artifact. -/
inductive SelectionError where
  /-- The text is no artifact key. -/
  | invalidKey (key : String)
  /-- The service did not report the component. -/
  | componentNotInCatalog (component : String)
  /-- The component has no artifact with this key. -/
  | unknownArtifact (component : String) (key : String)
  deriving DecidableEq, Repr

/-- A configuration that cannot be used. -/
inductive ConfigError where
  /-- There is no file at the path. -/
  | notFound (path : String)
  /-- Two values contradict each other. -/
  | invalid (reason : String)
  /-- The file's text cannot be read. -/
  | unreadable (reason : String)
  /-- A field that must have a value is blank. -/
  | missingField (field : String)
  /-- A field's value is out of its range. -/
  | invalidValue (field : String) (value : String)
  /-- An environment variable that is referred to is not set. -/
  | variableNotFound (name : String)
  deriving DecidableEq, Repr

/-- A failure of an operation itself. -/
inductive OperationError where
  /-- The operation was set up without something that it needs. -/
  | missingPart (part : String)
  /-- No draft has this name. -/
  | draftNotFound (name : String)
  deriving DecidableEq, Repr

/-- Any failure. -/
inductive Error where
  | network (cause : NetworkError)
  | catalog (cause : CatalogError)
  | selection (cause : SelectionError)
  | config (cause : ConfigError)
  | operation (cause : OperationError)
  /-- A fault of the program or of what it stands on. -/
  | internal (reason : String)
  /-- The operation was given up on request. -/
  | cancelled
  deriving DecidableEq, Repr

namespace NetworkError

/-- The message for people. -/
def message : NetworkError → String
  | timeout url => "connection timeout to " ++ url
  | requestFailed reason => "request failed: " ++ reason
  | connectionRefused reason => "connection refused: " ++ reason
  | invalidUrl reason => "invalid URL: " ++ reason
  | serviceBusy url => "service busy: " ++ url
  | httpStatus status reason => "HTTP error " ++ toString status.toNat ++ ": " ++ reason
  | rejected code reason =>
    "backend rejected request (code " ++ toString code.toInt ++ "): " ++ reason
  | malformed url reason => "malformed response from " ++ url ++ ": " ++ reason

/-- What to do about it. -/
def hint : NetworkError → Option String
  | timeout _ | connectionRefused _ =>
    some "Check that the deployment service is running and reachable."
  | invalidUrl _ => some "Fix `network.api_url` in the configuration."
  | serviceBusy _ =>
    some "The deployment service is still synchronizing mirrors; try again shortly."
  | httpStatus .. | rejected .. => some "Inspect the deployment service logs for details."
  | requestFailed _ | malformed .. => none

/-- The stable name of the cause. -/
def code : NetworkError → String
  | timeout _ => "network.timeout"
  | requestFailed _ => "network.request_failed"
  | connectionRefused _ => "network.connection_refused"
  | invalidUrl _ => "network.invalid_url"
  | serviceBusy _ => "network.service_busy"
  | httpStatus .. => "network.http_error"
  | rejected .. => "network.api_error"
  | malformed .. => "network.invalid_response"

/-- A service that is slow, absent or busy now may answer later. -/
def isRetryable : NetworkError → Bool
  | timeout _ | connectionRefused _ | serviceBusy _ => true
  | _ => false

end NetworkError

namespace CatalogError

/-- The message for people. -/
def message : CatalogError → String
  | unknownComponent name => "unknown component: " ++ name
  | invalidEdition value => "unknown edition: " ++ value
  | invalidOrigin value => "unknown artifact origin: " ++ value
  | invalidStableLine value =>
    "invalid stable line " ++ value ++ ": expected three dot-separated segments"

/-- What to do about it. -/
def hint : CatalogError → Option String
  | unknownComponent _ => some "Use one of: core, proxy, manager, agent, console."
  | invalidStableLine _ => some "Write the stable line as MAJOR.MINOR.PATCH."
  | invalidEdition _ | invalidOrigin _ => none

/-- The stable name of the cause. -/
def code : CatalogError → String
  | unknownComponent _ => "catalog.unknown_component"
  | invalidEdition _ => "catalog.invalid_edition"
  | invalidOrigin _ => "catalog.invalid_origin"
  | invalidStableLine _ => "catalog.invalid_stable_line"

end CatalogError

namespace SelectionError

/-- The message for people. -/
def message : SelectionError → String
  | invalidKey key => "invalid artifact key: " ++ key
  | componentNotInCatalog component => "component " ++ component ++ " is not in the catalog"
  | unknownArtifact component key => "no artifact " ++ key ++ " for component " ++ component

/-- What to do about it. -/
def hint : SelectionError → Option String
  | invalidKey _ => some "Artifact keys have the form VERSION-RELEASE-CHECKSUM."
  | componentNotInCatalog _ | unknownArtifact .. =>
    some "Run `dwiz versions` to list the installable artifacts."

/-- The stable name of the cause. -/
def code : SelectionError → String
  | invalidKey _ => "selection.invalid_key"
  | componentNotInCatalog _ => "selection.component_not_in_catalog"
  | unknownArtifact .. => "selection.unknown_artifact"

end SelectionError

namespace ConfigError

/-- The message for people. -/
def message : ConfigError → String
  | notFound path => "config file not found: " ++ path
  | invalid reason => "invalid config: " ++ reason
  | unreadable reason => "parse error: " ++ reason
  | missingField field => "missing required field: " ++ field
  | invalidValue field value => "invalid value for " ++ field ++ ": " ++ value
  | variableNotFound name => "environment variable not found: " ++ name

/-- What to do about it. -/
def hint : ConfigError → Option String
  | notFound _ => some "Provide a configuration file with `--config PATH`."
  | missingField _ => some "Add the missing configuration field noted in the error message."
  | invalidValue .. | invalid _ | unreadable _ =>
    some "Fix the configuration value and retry the command."
  | variableNotFound _ =>
    some "Export the environment variable or move the value into the config file."

/-- The stable name of the cause. -/
def code : ConfigError → String
  | notFound _ => "config.not_found"
  | invalid _ => "config.invalid"
  | unreadable _ => "config.parse_error"
  | missingField _ => "config.missing_field"
  | invalidValue .. => "config.invalid_value"
  | variableNotFound _ => "config.env_var_not_found"

end ConfigError

namespace OperationError

/-- The message for people. -/
def message : OperationError → String
  | missingPart part => "operations context is missing its " ++ part
  | draftNotFound name => "no draft deployment named " ++ name

/-- What to do about it. -/
def hint : OperationError → Option String
  | missingPart _ => none
  | draftNotFound _ => some "Run `dwiz drafts list` to see the pending drafts."

/-- The stable name of the cause. -/
def code : OperationError → String
  | missingPart _ => "ops.missing_component"
  | draftNotFound _ => "ops.draft_not_found"

end OperationError

namespace Error

/-- The message for people, without the domain. -/
def detail : Error → String
  | network cause => cause.message
  | catalog cause => cause.message
  | selection cause => cause.message
  | config cause => cause.message
  | operation cause => cause.message
  | internal reason => "internal error: " ++ reason
  | cancelled => "operation cancelled"

/-- The message for people, the domain in front. -/
def message : Error → String
  | network cause => "network error: " ++ cause.message
  | catalog cause => "catalog error: " ++ cause.message
  | selection cause => "selection error: " ++ cause.message
  | config cause => "config error: " ++ cause.message
  | operation cause => "ops error: " ++ cause.message
  | internal reason => "internal error: " ++ reason
  | cancelled => "operation cancelled"

/-- What to do about it. -/
def hint : Error → Option String
  | network cause => cause.hint
  | catalog cause => cause.hint
  | selection cause => cause.hint
  | config cause => cause.hint
  | operation cause => cause.hint
  | internal _ | cancelled => none

/-- The stable name of the cause. -/
def code : Error → String
  | network cause => cause.code
  | catalog cause => cause.code
  | selection cause => cause.code
  | config cause => cause.code
  | operation cause => cause.code
  | internal _ => "error.internal"
  | cancelled => "error.cancelled"

/-- Only failures of the network may go away by themselves. -/
def isRetryable : Error → Bool
  | network cause => cause.isRetryable
  | _ => false

/-- Whether the service asked to be tried later. -/
def isBusy : Error → Bool
  | network (.serviceBusy _) => true
  | _ => false

/-- A busy service is always worth another try. -/
theorem isRetryable_of_isBusy {e : Error} (h : e.isBusy) : e.isRetryable := by
  unfold isBusy at h
  split at h
  · rfl
  · contradiction

end Error

end Rollout
