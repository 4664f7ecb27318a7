/-! # Diagnostics

A **diagnostic** is what a phase of normalization reports: an error, a warning or an info,
the phase it came from, a message, and where in the schema it applies, when it applies to a
place. Errors keep the result from being handed out; renames are reported as warnings.

* `Severity`, `Diagnostic` — the reports.
* `Diagnostic.display` — `warning: message (at models.Pet)`.
-/

namespace SwiftSchema

/-- How grave a diagnostic is. -/
inductive Severity where
  | error
  | warning
  | info
  deriving DecidableEq, Repr

namespace Severity

/-- The word of a severity in a displayed diagnostic. -/
def label : Severity → String
  | .error => "error"
  | .warning => "warning"
  | .info => "info"

/-- The name of a severity in written output. -/
def title : Severity → String
  | .error => "Error"
  | .warning => "Warning"
  | .info => "Info"

end Severity

/-- A **diagnostic**: severity, phase, message and, if it has one, the place it applies to. -/
structure Diagnostic where
  severity : Severity
  phase : String
  message : String
  location : Option String := none
  deriving DecidableEq, Repr

namespace Diagnostic

/-- An error of a phase. -/
def error (phase message : String) : Diagnostic := ⟨.error, phase, message, none⟩

/-- A warning of a phase. -/
def warning (phase message : String) : Diagnostic := ⟨.warning, phase, message, none⟩

/-- An info of a phase. -/
def info (phase message : String) : Diagnostic := ⟨.info, phase, message, none⟩

/-- The diagnostic placed at a location. -/
def located (d : Diagnostic) (location : String) : Diagnostic := { d with location := some location }

/-- The **display** of a diagnostic: severity and message, then the location in parentheses. -/
def display (d : Diagnostic) : String :=
  d.severity.label ++ ": " ++ d.message ++
    match d.location with
    | some l => " (at " ++ l ++ ")"
    | none => ""

/-- Whether a diagnostic is an error. -/
def isError (d : Diagnostic) : Bool := d.severity = .error

/-- Whether a diagnostic is a warning. -/
def isWarning (d : Diagnostic) : Bool := d.severity = .warning

end Diagnostic

end SwiftSchema
