/-!
# Errors

What a failed call reports: one of nine kinds and a text.
-/

namespace ThreatIntel

/-- What went wrong, by the part of the work that noticed it. -/
inductive ErrorKind where
  /-- The input was refused before anything was sent. -/
  | validation
  /-- The exchange failed or was answered with a failure status. -/
  | transport
  /-- An answer did not have the expected shape. -/
  | decode
  /-- The record does not exist. -/
  | notFound
  /-- The credentials are missing or were refused. -/
  | authentication
  /-- The settings cannot be used. -/
  | configuration
  /-- A value could not be written. -/
  | serialization
  /-- A file could not be read or written. -/
  | io
  /-- A state that should not arise. -/
  | internal
  deriving DecidableEq, Repr

namespace ErrorKind

/-- Every kind of error. -/
def all : List ErrorKind :=
  [validation, transport, decode, notFound, authentication, configuration, serialization, io,
    internal]

/-- The label printed before an error's text. -/
def label : ErrorKind → String
  | validation => "VALIDATION"
  | transport => "TRANSPORT"
  | decode => "DECODE"
  | notFound => "NOT_FOUND"
  | authentication => "AUTHENTICATION"
  | configuration => "CONFIGURATION"
  | serialization => "SERIALIZATION"
  | io => "IO"
  | internal => "INTERNAL"

/-- The name under which a kind is stored. -/
def name : ErrorKind → String
  | validation => "Validation"
  | transport => "Transport"
  | decode => "Decode"
  | notFound => "NotFound"
  | authentication => "Authentication"
  | configuration => "Configuration"
  | serialization => "Serialization"
  | io => "Io"
  | internal => "Internal"

/-- The kind stored under a name. -/
def ofName? (name : String) : Option ErrorKind :=
  all.find? fun kind => kind.name == name

@[simp] theorem ofName?_name (kind : ErrorKind) : ofName? kind.name = some kind := by
  cases kind <;> decide

end ErrorKind

/-- A failed call: the kind of failure, its text, and whether another error caused it. -/
structure Error where
  /-- The kind of failure. -/
  kind : ErrorKind
  /-- The text, without the kind. -/
  message : String
  /-- Whether another error lies beneath this one. -/
  hasCause : Bool := false
  deriving DecidableEq, Repr

namespace Error

/-- An input was refused. -/
def validation (message : String) : Error :=
  ⟨.validation, message, false⟩

/-- An exchange failed. -/
def transport (message : String) : Error :=
  ⟨.transport, message, false⟩

/-- An answer had the wrong shape. -/
def decode (message : String) : Error :=
  ⟨.decode, message, false⟩

/-- A record does not exist. -/
def notFound (message : String) : Error :=
  ⟨.notFound, message, false⟩

/-- Credentials are missing or were refused. -/
def authentication (message : String) : Error :=
  ⟨.authentication, message, false⟩

/-- Settings cannot be used. -/
def configuration (message : String) : Error :=
  ⟨.configuration, message, false⟩

/-- A file could not be used. -/
def io (message : String) : Error :=
  ⟨.io, message, false⟩

/-- A state that should not arise. -/
def internal (message : String) : Error :=
  ⟨.internal, message, false⟩

/-- The same error, caused by another one. -/
def withCause (error : Error) : Error :=
  { error with hasCause := true }

/-- A failure of a device, told in its own words. -/
def device (detail : String) : Error :=
  (io s!"I/O error: {detail}").withCause

/-- A text that is not JSON, with what its reader says. -/
def malformed (detail : String) : Error :=
  ⟨.serialization, s!"JSON serialization error: {detail}", true⟩

/-- A copy of an error, which leaves the cause behind. -/
def copied (error : Error) : Error :=
  { error with hasCause := false }

/-- The text with the kind's label before it. -/
def display (error : Error) : String :=
  s!"{error.kind.label}: {error.message}"

end Error
end ThreatIntel
