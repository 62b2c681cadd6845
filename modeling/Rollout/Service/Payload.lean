/-!
# What the deployment service answers

The service wraps each answer in an envelope and each list in a page. The values here are as the
service writes them; `Catalog.normalize` and the operations make sense of them.
-/

namespace Rollout.Service

/-- One build of a component, in the service's terms. -/
structure Build where
  version : String
  release : Option String
  checksum : String
  /-- The name of the edition. -/
  edition : Option String
  /-- The name of the origin. -/
  origin : Option String
  /-- The processor for which it is built. -/
  architecture : Option String
  /-- The estimated size in bytes. -/
  size : Option UInt64
  deriving DecidableEq, Repr

/-- A component with its builds, as the service lists it. -/
structure Offer where
  name : String
  builds : List Build
  deriving DecidableEq, Repr

/-- The state of one mirror. -/
structure MirrorStatus where
  name : String
  available : Bool
  enabled : Option Bool
  path : Option String
  deriving DecidableEq, Repr

/-- A part of a list, with the number of items that the service has in all. -/
structure Page (α : Type u) where
  total : UInt64
  items : List α
  deriving DecidableEq, Repr

/-- The page without items. -/
def Page.empty {α : Type u} : Page α :=
  ⟨0, []⟩

/-- The state of the mirrors. -/
abbrev MirrorReport :=
  Page MirrorStatus

/-- A deployment and how far it is. -/
structure Deployment where
  name : String
  status : String
  deriving DecidableEq, Repr

/-- How to connect to a cluster. -/
structure Connection where
  cluster : String
  host : String
  port : UInt16
  database : String
  user : String
  password : String
  deriving DecidableEq, Repr

/-- What every answer is wrapped in. -/
structure Envelope (α : Type u) where
  success : Bool
  code : Int64
  message : String
  data : Option α
  deriving DecidableEq, Repr

end Rollout.Service
