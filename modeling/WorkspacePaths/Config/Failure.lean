import WorkspacePaths.Config.Shape
import WorkspacePaths.Document.Json.Reader
import WorkspacePaths.Document.Toml.Reader
import WorkspacePaths.Host.WorkspaceRoot

/-!
# `Config.Failure` — why an operation fails

Each failure is a cause; its wording is in one place.

## Contents
- `DocumentFault`: why a configuration file cannot be read as a document.
- `ConfigFault`: why there is no configuration, and `ConfigFault.isRefusal`, the one reason that lies
  with the system and not with the configuration.
- `Failure`: why an operation fails, with `Failure.message`.
-/

namespace WorkspacePaths

/-- Why a configuration file cannot be read as a document. -/
inductive DocumentFault where
  /-- The bytes are not UTF-8. -/
  | notUtf8
  | json (fault : Json.Fault) (source : Text)
  | toml (fault : Toml.Fault) (source : Text)
  /-- The document is no object. -/
  | notObject

/-- The message for a document that cannot be read. -/
def DocumentFault.message : DocumentFault → Text
  | notUtf8 => "UnicodeDecodeError: utf-8"
  | json fault source => fault.message source
  | toml fault source => fault.message source
  | notObject => "Configuration root must be an object."

/-- Why there is no configuration. All but the last are errors of the configuration, which callers are
told to expect; that the system refuses a path is none of these, and is passed on as the system's own
error. -/
inductive ConfigFault where
  /-- There is no file at the path. -/
  | missing (path : Text)
  /-- The file at the path cannot be read. -/
  | unreadable (path : Text) (fault : DocumentFault)
  /-- The document does not have the shape of a configuration. -/
  | mismatch (m : Mismatch)
  /-- No configuration is in force. -/
  | notLoaded
  /-- The system refuses to look the path up. -/
  | refused (path : Text) (refusal : Refusal)

/-- The message for a configuration that cannot be had. -/
def ConfigFault.message : ConfigFault → Text
  | missing path => ("Configuration file not found: " : Text) ++ path
  | unreadable path fault =>
    ("Failed to parse " : Text) ++ path ++ (": " : Text) ++ fault.message
  | mismatch m => ("Invalid configuration: " : Text) ++ m.message
  | notLoaded => "Configuration has not been loaded yet."
  | refused path refusal => refusal.message path

/-- The system has refused a path, which is no error of the configuration. -/
def ConfigFault.isRefusal : ConfigFault → Bool
  | refused _ _ => true
  | _ => false

/-- Why an operation fails. -/
inductive Failure where
  /-- An entry is relative to a home directory, and there is none. -/
  | homeNotFound
  /-- A workspace root lies in a home directory that cannot be determined. -/
  | homeUndetermined
  /-- A text has no UTF-8 form. -/
  | encoding (fault : Text.EncodingFault)
  /-- A text holds a zero, which no name and no value can hold. -/
  | embeddedZero
  | config (fault : ConfigFault)
  /-- An option stands without its value. -/
  | valueMissing

namespace Failure

/-- The message for a failure. -/
def message : Failure → Text
  | homeNotFound => homeMessage
  | homeUndetermined => "Could not determine home directory."
  | encoding fault => fault.message
  | embeddedZero => SystemFault.embeddedZero.message
  | config fault => fault.message
  | valueMissing => "--workspace-root requires a value"

/-- The failure that a document is no configuration. -/
def ofShape : ShapeFault → Failure
  | .mismatch m => .config (.mismatch m)
  | .key fault => .encoding fault

/-- The failure that the system refuses a name or value. -/
def ofSystem : SystemFault → Failure
  | .encoding fault => .encoding fault
  | .embeddedZero => .embeddedZero

/-- The failure that a path names no workspace root. -/
def ofHome : HomeFault → Failure
  | .undetermined => .homeUndetermined
  | .refused fault => ofSystem fault

end Failure

/-- An operation that may fail, with what it logs. -/
abbrev Attempt (α : Type) := Logged Failure α

/-- A resolution as an operation. -/
def Resolution.attempt {α : Type} (r : Resolution α) : Attempt α := r.mapFault Failure.encoding

end WorkspacePaths
