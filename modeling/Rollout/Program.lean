import Rollout.CommandLine.Help
import Rollout.CommandLine.Reader
import Rollout.Event.Status
import Rollout.Http.Client
import Rollout.Http.Url.Reader
import Rollout.Operation.Execute
import Rollout.Program.Startup
import Rollout.Render

/-!
# The program

A run reads the arguments, makes the configuration, carries out the command against the service, and
ends with an exit status, an output, and what was told on the way. The status is zero for a success,
one for a failure, and two for a session that is not ready and for arguments that cannot be used.
-/

namespace Rollout

/-- How a run of the program ended. -/
structure Finished where
  status : UInt8
  /-- The output. -/
  output : String
  /-- The status lines, and the failure if there was one. -/
  told : String
  deriving DecidableEq, Repr

/-- The end of a run that only gave notice. -/
def Finished.ofNotice (notice : CommandLine.Notice) : Finished :=
  if notice.isRequested then ⟨0, notice.text, ""⟩ else ⟨2, "", notice.text⟩

/-- The end of a run that failed, after some status lines. -/
def Finished.ofFailure (told : String) (e : ProgramError) : Finished :=
  ⟨1, "", told ++ "Error: " ++ e.message ++ "\n"⟩

/-- The exit status for an output. -/
def Output.exitStatus (output : Output) : UInt8 :=
  if output.isSuccess then 0 else 2

/-- A run that is ready to begin. -/
structure Plan where
  config : Config
  client : Http.Client
  command : Command
  /-- Whether the output is a document for other programs. -/
  json : Bool
  /-- Whether details are told. -/
  detailed : Bool

namespace Plan

/-- The client for the service of a configuration. -/
def clientOf (network : NetworkConfig) : Except NetworkError Http.Client := do
  return {
    base := ← Http.Url.parseBase network.apiUrl
    retries := network.retries
    delay := 1000 * network.retryDelay.toNat }

/-- The run that was asked for. -/
def make (around : Surroundings) (invocation : Invocation) : Except ProgramError Plan := do
  let settings := invocation.settings
  let config ← Config.ofSurroundings around settings
  return {
    config
    client := ← (clientOf config.network).mapError (ProgramError.operation ∘ Error.network)
    command := invocation.command
    json := settings.json || config.general.output = .json
    detailed := settings.debug }

/-- What is to be carried out. -/
def operation (plan : Plan) : Operation (Except Error Output) :=
  .execute plan.config plan.command

/-- How status lines are shown. -/
def style (plan : Plan) (around : Surroundings) : StatusStyle where
  colored := plan.config.general.color.enabled around.statusTerminal
  detailed := plan.detailed
  quiet := plan.json

/-- The text of an output. -/
def outputText (plan : Plan) (around : Surroundings) (output : Output) : String :=
  output.text plan.json (plan.config.general.color.enabled around.outputTerminal)

/-- How the run ends with a result, after the given events. -/
def finish (plan : Plan) (around : Surroundings) (events : List Event) :
    Except Error Output → Finished
  | .ok output => ⟨output.exitStatus, plan.outputText around output, told⟩
  | .error e => .ofFailure told (.ofError e)
where
  /-- The status lines of the events. -/
  told : String := String.join (events.map (Event.statusText (plan.style around)))

/-- Carries out the run over a transport, with the state of the transport in the end. `limit` bounds
the questions of one polling. -/
def run {σ : Type} (plan : Plan) (around : Surroundings) (transport : Http.Transport σ)
    (cancel : Option Nat) (limit : Nat) (state : σ) : Option (Finished × σ) :=
  (plan.operation.run (plan.client.responder transport) cancel limit 0 state).map fun ended =>
    (plan.finish around (Operation.events ended.history) ended.result, ended.state)

end Plan

/-- A whole run of the program for its arguments. -/
def runProgram {σ : Type} (args : List String) (around : Surroundings)
    (transport : Http.Transport σ) (cancel : Option Nat) (limit : Nat) (state : σ) :
    Option (Finished × σ) :=
  match CommandLine.read args with
  | .error notice => some (.ofNotice notice, state)
  | .ok invocation =>
    match Plan.make around invocation with
    | .error e => some (.ofFailure "" e, state)
    | .ok plan => plan.run around transport cancel limit state

end Rollout
