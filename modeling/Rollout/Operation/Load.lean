import Rollout.Catalog.Normalize
import Rollout.Config
import Rollout.Operation
import Rollout.Report

/-!
# Loading a catalog

The listing is fetched, made into a catalog, and a session is begun with it. If something that is
required cannot be installed, the mirrors are asked why.
-/

namespace Rollout

open Service Operation

/-- The catalog of a listing under the configuration, and the names without meaning. -/
def Config.readListing (config : Config) (offers : List Offer) :
    Except CatalogError (Catalog × List String) := do
  let options ← Catalog.Options.ofConfig config.catalog
  let catalog ← Catalog.normalize options offers
  return (catalog, Catalog.unknownNames options offers)

/-- The events that tell of a new catalog. -/
def loadedEvents (catalog : Catalog) (ignored : List String) : List Event :=
  .loaded (.ofNat catalog.size) (.ofNat catalog.artifactCount) ignored ::
    if ignored.isEmpty then []
    else [.warning "ignoring unknown components" (some (", ".intercalate ignored))]

namespace Operation

/-- Asks for the state of the mirrors and finds what is wrong with them. -/
def diagnose (config : Config) (missing : List Component) :
    Operation (Except Error (List Finding)) := do
  tellAll [.diagnosticsStarted (missing.map Component.name)]
  match ← polling .mirrors .mirror config.network.busyRetryDelay with
  | .error e =>
    tellAll [.diagnosticsFailed e.failure]
    return .error e
  | .ok report =>
    let found := findings config.mirrors report
    tellAll [.diagnosticsCompleted report.total (found.map Finding.mirror)]
    return .ok found

/-- The session with the findings that explain what is missing, if something is. -/
def explain (config : Config) (s : Session) : Operation (Except Error Session) := do
  tellAll [s.readiness]
  if s.isReady then
    return .ok s
  else
    return (← diagnose config s.missing).map s.setFindings

/-- Fetches the listing, telling of the attempt and of its failure. -/
def fetchListing (config : Config) : Operation (Except Error (List Offer)) := do
  tellAll [.fetchStarted config.network.apiUrl]
  match ← polling .components .catalog config.network.busyRetryDelay with
  | .error e =>
    tellAll [.fetchFailed e.failure]
    return .error e
  | .ok offers => return .ok offers

/-- Begins a session with a listing that has been fetched. -/
def seed (config : Config) (flow : Flow) (offers : List Offer) :
    Operation (Except Error Report) := do
  match config.readListing offers with
  | .error e => return .error (.catalog e)
  | .ok (catalog, ignored) =>
    let (s, events) := Session.start catalog flow config.resolver
    tellAll (loadedEvents catalog ignored ++ events)
    match ← explain config s with
    | .error e => return .error e
    | .ok session =>
      tellAll [.completed "load_catalog" true]
      return .ok { session, ignored }

/-- Fetches the listing and begins a session with it. -/
def load (config : Config) (flow : Flow) : Operation (Except Error Report) := do
  tellAll [.started "load_catalog"]
  match ← fetchListing config with
  | .error e => return .error e
  | .ok offers => seed config flow offers

end Operation

end Rollout
