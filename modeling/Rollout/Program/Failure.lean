import Rollout.Error

/-!
# Why the program fails

What the program tells when it fails: the message of the cause, and for a failed operation its code,
its hint, and whether it is worth another try.
-/

namespace Rollout

/-- Why the program fails. -/
inductive ProgramError where
  /-- The configuration cannot be used. -/
  | config (cause : ConfigError)
  /-- An operation failed. -/
  | operation (cause : Error)
  /-- The arguments contradict what they are for. -/
  | arguments (reason : String)
  /-- The output cannot be written. -/
  | io (reason : String)
  deriving DecidableEq, Repr

namespace ProgramError

/-- The failure of the program for an error. -/
def ofError : Error → ProgramError
  | .config cause => config cause
  | e => operation e

/-- What the program tells. -/
def message : ProgramError → String
  | config cause => "Configuration error: " ++ cause.message
  | operation cause =>
    cause.detail ++ "\n  Code: " ++ cause.code ++
      (match cause.hint with
        | none => ""
        | some hint => "\n  Hint: " ++ hint) ++
      if cause.isRetryable then "\n  Retry: safe to retry this operation." else ""
  | arguments reason => "Invalid arguments: " ++ reason
  | io reason => "I/O error: " ++ reason

/-- The message of what lies behind it. -/
def cause? : ProgramError → Option String
  | config cause => some cause.message
  | operation cause => some cause.message
  | arguments _ => none
  | io reason => some reason

end ProgramError

end Rollout
