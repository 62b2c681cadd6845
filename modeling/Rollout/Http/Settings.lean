import Rollout.Config

/-!
# Settings of the client

What the client that talks to the service is set to, from the network section of the configuration.
-/

namespace Rollout.Http

/-- The version of the program. -/
def programVersion : String :=
  "0.1.0"

/-- What the client is set to; times are in seconds. -/
structure Settings where
  timeout : UInt64
  connectTimeout : UInt64
  /-- How long a connection is kept that is not used. -/
  poolIdleTimeout : UInt64
  /-- How many such connections are kept. -/
  poolMaxIdle : UInt64
  retries : UInt32
  retryDelay : UInt64
  /-- The name by which the client introduces itself. -/
  userAgent : String
  deriving DecidableEq, Repr

/-- The settings of a network section. -/
def Settings.ofConfig (config : NetworkConfig) : Settings where
  timeout := config.timeout
  connectTimeout := config.connectTimeout
  poolIdleTimeout := 90
  poolMaxIdle := 4
  retries := config.retries
  retryDelay := config.retryDelay
  userAgent := "dwiz/" ++ programVersion

end Rollout.Http
