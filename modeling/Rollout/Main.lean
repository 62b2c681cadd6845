import Rollout.Event.Log
import Rollout.Http.Settings
import Rollout.Http.Wire
import Rollout.Json.Writer
import Rollout.Program
import Std.Async.DNS
import Std.Async.Signal
import Std.Async.TCP
import Std.Async.Timer

/-!
# The command line program

Everything that touches the world: the arguments, the environment, the configuration file, the
connection to the service, the clock, and the interrupt that cancels a polling. What is done with
all of this is decided by `CommandLine.read`, `Plan.make`, `Plan.operation` and `Plan.finish`; how
often a request is sent by `Http.sendAgain`, and what a round of polling does by
`Service.PollWorld.round`.
-/

namespace Rollout.Console

open Std.Async Std.Net Http Service

/-! ## Surroundings -/

/-- What is found at a path. -/
def readFile (path : String) : IO File := do
  try
    let bytes ← IO.FS.readBinFile path
    match String.fromUTF8? bytes with
    | some content => return .text content
    | none => return .unreadable
  catch
    | .noFileOrDirectory .. => return .absent
    | _ => return .unreadable

/-- The path of the standard configuration file. -/
def standardPath : IO (Option String) := do
  let directory ← match ← IO.getEnv "XDG_CONFIG_HOME" with
    | some directory =>
      if directory.startsWith "/" then pure (some directory) else home
    | none => home
  return directory.map (· ++ "/dwiz/config.toml")
where
  /-- The directory for configurations in the home directory. -/
  home : IO (Option String) := do
    match ← IO.getEnv "HOME" with
    | none | some "" => return none
    | some directory => return some (directory ++ "/.config")

/-- The environment variables that are read. -/
def environment : IO Config.Environment := do
  return {
    output := ← IO.getEnv "DWIZ_OUTPUT"
    color := ← IO.getEnv "DWIZ_COLOR"
    apiUrl := ← IO.getEnv "DWIZ_API_URL"
    stableLine := ← IO.getEnv "DWIZ_STABLE_LINE" }

/-- Whether a stream goes to a terminal that shows colour. -/
def showsColor (stream : IO.FS.Stream) : IO Bool := do
  let refused := (← IO.getEnv "NO_COLOR").isSome
  match ← IO.getEnv "TERM" with
  | none | some "dumb" => return false
  | some _ => return !refused && (← stream.isTty)

/-- What the program finds around it, with the file that is named and the standard file. -/
def surroundings (named : Option String) : IO Surroundings := do
  let standardPath ← standardPath
  let found ← (named.toList ++ standardPath.toList).mapM fun path => do
    return (path, ← readFile path)
  return {
    files := fun path => (found.lookup path).getD .absent
    standardPath
    environment := ← environment
    outputTerminal := ← showsColor (← IO.getStdout)
    statusTerminal := ← showsColor (← IO.getStderr) }

/-! ## Requests -/

/-- A number of milliseconds that timers can count. -/
def milliseconds (n : Nat) : Std.Time.Millisecond.Offset :=
  .ofNat (min n 1000000000000000)

/-- The result of a task, unless another task ends first. -/
def within {α : Type} (limit : Async Unit) (task : Async α) : Async (Option α) :=
  Async.race (do return some (← task)) (do limit; return none)

/-- The addresses of a host. -/
def addresses (host : String) (port : UInt16) : Async (List SocketAddress) := do
  let bare := String.ofList (host.toList.filter fun c => c ≠ '[' ∧ c ≠ ']')
  let found ← match IPv4Addr.ofString bare, IPv6Addr.ofString bare with
    | some a, _ => pure #[IPAddr.v4 a]
    | none, some a => pure #[IPAddr.v6 a]
    | none, none => DNS.getAddrInfo host (toString port)
  return found.toList.map fun
    | .v4 a => .v4 ⟨a, port⟩
    | .v6 a => .v6 ⟨a, port⟩

/-- A connection to the first address that accepts one. -/
def connectAny : List SocketAddress → Async (Option TCP.Socket.Client)
  | [] => return none
  | address :: rest => do
    try
      let client ← TCP.Socket.Client.mk
      client.connect address
      return some client
    catch _ => connectAny rest

/-- A connection to the service; connections that need encryption cannot be made. -/
def connect (url : Url) : Async (Option TCP.Socket.Client) := do
  if url.scheme ≠ "http" then return none
  let port := UInt16.ofNat (url.port.getD 80)
  try
    connectAny (← addresses url.host port)
  catch _ => return none

/-- Receives until the answer is whole or cannot become so. -/
partial def receive (client : TCP.Socket.Client) (bytes : ByteArray) : Async Outcome := do
  let more ← client.recv? 65536
  let bytes := bytes ++ more.getD .empty
  match Wire.outcome? more.isNone bytes.toList with
  | some outcome => return outcome
  | none => receive client bytes

/-- Sends a request once. -/
def sendOnce (settings : Settings) (request : Request) (url : Url) : Async Outcome := do
  let limit := sleep (milliseconds (1000 * settings.connectTimeout.toNat))
  match ← within limit (connect url) with
  | none => return .failed ⟨true, true⟩
  | some none => return .failed ⟨false, true⟩
  | some (some client) =>
    try
      client.send (Wire.requestText settings.userAgent request url).toUTF8
      receive client .empty
    catch _ => return .failed ⟨false, false⟩

/-- Sends a request once, within the time that an answer may take. -/
def sendInTime (settings : Settings) (request : Request) (url : Url) : Async Outcome := do
  let limit := sleep (milliseconds (1000 * settings.timeout.toNat))
  return (← within limit (sendOnce settings request url)).getD (.failed ⟨true, false⟩)

/-! ## Operations -/

/-- What carrying out a plan needs. -/
structure Context where
  plan : Plan
  around : Surroundings
  /-- Resolved when the person interrupts. -/
  interrupted : IO.Promise Unit

namespace Context

/-- Tells an event: its record if details are wanted, and its status line. -/
def tell (c : Context) (e : Event) : Async Unit := do
  if c.plan.detailed then
    let fields := e.log.fields.map fun (name, s) => (name, Json.string s)
    let record := Json.object [("level", .string e.log.level.name), ("fields", .object fields)]
    IO.eprintln record.compact
  IO.eprint (e.statusText (c.plan.style c.around))

/-- Asks the service once, with all the attempts that this takes. -/
def ask (c : Context) (request : Request) : Async (Except Error request.Answer) := do
  let client := c.plan.client
  let settings := Settings.ofConfig c.plan.config.network
  let once := sendInTime settings request (request.url client.base)
  let wait (n : Nat) : Async Unit := sleep (milliseconds n)
  return client.conclude request (← sendAgain once wait client.delay client.retries.toNat 0)

/-- Carries out a task unless the person interrupts. -/
def unlessInterrupted {α : Type} (c : Context) (task : Async α) : Async (Option α) :=
  within (do let _ ← Async.ofTask c.interrupted.result?) task

/-- Polling in the world, where the person may interrupt. -/
def pollWorld (c : Context) (request : Request) (source : Source) (delay : UInt64) :
    PollWorld Async request.Answer where
  isCancelled := c.interrupted.isResolved
  ask := c.unlessInterrupted (c.ask request)
  tell attempt := c.tell (.retrying source attempt delay)
  rest := do
    let passed ← c.unlessInterrupted (sleep (milliseconds delay.toNat))
    return passed.isSome

/-- Polls round after round, until one ends it. -/
partial def poll {α : Type} (world : PollWorld Async α) (attempt : UInt32) :
    Async (Except Error α) := do
  match ← world.round attempt with
  | .inl attempt => poll world attempt
  | .inr result => return result

/-- Carries out a plan. -/
def carryOut {α : Type} (c : Context) : Operation α → Async α
  | .done x => return x
  | .tell e next => do
    c.tell e
    c.carryOut next
  | .ask request next => do
    let answer ← c.ask request
    c.carryOut (next answer)
  | .poll request source delay next => do
    let answer ← poll (c.pollWorld request source delay) 0
    c.carryOut (next answer)

end Context

/-! ## Runs -/

/-- Writes how a run ended, and gives its exit status. -/
def report (finished : Finished) : IO UInt32 := do
  IO.eprint finished.told
  try
    let output ← IO.getStdout
    output.putStr finished.output
    output.flush
    return finished.status.toUInt32
  catch e =>
    let failure := Finished.ofFailure "" (.io (toString e))
    IO.eprint failure.told
    return failure.status.toUInt32

/-- Carries out a plan while an interrupt is awaited. -/
def runPlan (plan : Plan) (around : Surroundings) : IO UInt32 := do
  let interrupted ← IO.Promise.new
  let waiter ← Signal.Waiter.mk .sigint false
  Async.block do
    let signal ← waiter.wait
    background do
      let _ ← await signal
      interrupted.resolve ()
  let result ← Async.block (Context.carryOut ⟨plan, around, interrupted⟩ plan.operation)
  waiter.stop
  report (plan.finish around [] result)

/-- Runs the program with its arguments. -/
def runArguments (args : List String) : IO UInt32 := do
  match CommandLine.read args with
  | .error notice => report (.ofNotice notice)
  | .ok invocation =>
    let around ← surroundings invocation.settings.config
    match Plan.make around invocation with
    | .error e => report (.ofFailure "" e)
    | .ok plan => runPlan plan around

end Rollout.Console

/-- The program. -/
def main (args : List String) : IO UInt32 :=
  Rollout.Console.runArguments args
