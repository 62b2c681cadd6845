import Rollout.Document.Config
import Rollout.Toml.Document

/-!
# Configuration from a file

A configuration file is a TOML document with the sections of the configuration. What it says must be
a valid configuration by itself, before anything overrides it. A file that is named must be there;
without a name the standard file counts if there is one, and the standard values otherwise.
-/

namespace Rollout

/-- What is found at a path. -/
inductive File where
  | absent
  /-- There is something that cannot be read as text. -/
  | unreadable
  | text (content : String)
  deriving DecidableEq, Repr

namespace Config

/-- The configuration that a text describes. -/
def ofText (s : String) : Except ConfigError Config := do
  match (Toml.read? s).bind ofJson? with
  | none => .error (.unreadable "not a document with the sections of the configuration")
  | some config =>
    config.validate
    return config

/-- The configuration in the file at a path. -/
def ofFile (path : String) : File → Except ConfigError Config
  | .text s => ofText s
  | .absent | .unreadable => .error (.notFound path)

/-- The configuration of the standard file, or the standard values if there is no such file. It is
an error if there is no place for a standard file at all. -/
def ofStandardFile (files : String → File) : (path : Option String) → Except ConfigError Config
  | none => .error (.notFound "config directory")
  | some path =>
    match files path with
    | .absent => .ok standard
    | file => ofFile path file

/-- The configuration of the file that is named, or else of the standard file. -/
def ofFiles (files : String → File) (named standardPath : Option String) :
    Except ConfigError Config :=
  match named with
  | some path => ofFile path (files path)
  | none => ofStandardFile files standardPath

end Config

end Rollout
