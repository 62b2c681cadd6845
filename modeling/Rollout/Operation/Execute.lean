import Rollout.Command
import Rollout.Operation.Deployments
import Rollout.Operation.Load

/-!
# Carrying out commands

Each command is an operation that ends with an output or an error. Choices are made in the order in
which they were given, and the first that cannot be made ends the command. After choices the session
is examined once more, and what the mirrors said before no longer counts.
-/

namespace Rollout.Operation

/-- Makes choices in a session. -/
def choose (s : Session) : List Choice → Operation (Except Error Session)
  | [] => return .ok s
  | choice :: rest =>
    match s.select choice.component choice.key with
    | .error e => return .error (.selection e)
    | .ok (s, _, events) => do
      tellAll events
      choose s rest

/-- The session after choices have been made, explained anew. -/
def reconsider (config : Config) (s : Session) (choices : List Choice) :
    Operation (Except Error Session) :=
  if choices.isEmpty then return .ok s else explain config (s.setFindings [])

/-- Shows what would be installed with the given choices. -/
def versions (config : Config) (flow : Flow) (choices : List Choice)
    (active : Option (List Component)) : Operation (Except Error Output) := do
  match ← load config flow with
  | .error e => return .error e
  | .ok report =>
    match ← choose report.session choices with
    | .error e => return .error e
    | .ok s =>
      let s := match active with
        | none => s
        | some active => s.setActive active
      return (← reconsider config s choices).map fun session =>
        .session { report with session }.summary

/-- Lists everything that can be installed. -/
def listing (config : Config) (flow : Flow) : Operation (Except Error Output) := do
  return (← load config flow).map fun report => .catalog report.session.listing

/-- Carries out a command. -/
def execute (config : Config) : Command → Operation (Except Error Output)
  | .versions flow choices active => versions config flow choices active
  | .catalog flow => listing config flow
  | .listDrafts => return (← listDrafts).map .drafts
  | .discardDraft name =>
    return (← discardDraft name).map fun () => .success ("Discarded draft " ++ name)
  | .connection cluster => return (← connectionInfo cluster).map .connection

end Rollout.Operation
