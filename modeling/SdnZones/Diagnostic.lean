-- SUMMARY: Warnings and errors collected along the way, in the order in which they arise.
import SdnZones.Text.Split

/-!
# Diagnostics

What happens while zones are converted, checked and written is told in diagnostics.
A collection of them is a list in the order of their arising; it counts as failed as
soon as it holds an error.
-/

namespace SdnZones

/-- How grave a diagnostic is. -/
inductive Severity where
  | warning
  | error
deriving DecidableEq

/-- The word for a severity. -/
def Severity.name : Severity → String
  | .warning => "warning"
  | .error => "error"

/-- The severity of a word. -/
def Severity.ofName? (s : String) : Option Severity :=
  [warning, error].find? (·.name == s)

/-- A warning or an error. -/
structure Diagnostic where
  severity : Severity
  summary : String
  detail : String
deriving DecidableEq

namespace Diagnostic

/-- An error. -/
def error (summary detail : String) : Diagnostic := ⟨.error, summary, detail⟩

/-- A warning. -/
def warning (summary detail : String) : Diagnostic := ⟨.warning, summary, detail⟩

/-- Whether a diagnostic is an error. -/
def isError (d : Diagnostic) : Bool := d.severity = .error

/-- Whether a diagnostic is a warning. -/
def isWarning (d : Diagnostic) : Bool := d.severity = .warning

/-- Summary and detail. -/
def text (d : Diagnostic) : String := s!"{d.summary}: {d.detail}"

/-- Severity, summary and detail. -/
def fullText (d : Diagnostic) : String := s!"{d.severity.name}: {d.text}"

end Diagnostic

/-- Diagnostics in the order in which they arose. -/
abbrev Diagnostics := List Diagnostic

namespace Diagnostics

/-- Whether there is an error. -/
def hasError (ds : Diagnostics) : Bool := ds.any Diagnostic.isError

/-- The errors. -/
def errors (ds : Diagnostics) : Diagnostics := ds.filter Diagnostic.isError

/-- The warnings. -/
def warnings (ds : Diagnostics) : Diagnostics := ds.filter Diagnostic.isWarning

/-- All diagnostics, one on a line. -/
def text (ds : Diagnostics) : String := Text.joinWith "\n" (ds.map Diagnostic.fullText)

/-- The text of the errors, if there are any. -/
def failure? (ds : Diagnostics) : Option String :=
  if hasError ds then some (Text.joinWith "\n" ((errors ds).map Diagnostic.text)) else none

@[simp] theorem hasError_nil : hasError [] = false := rfl

@[simp] theorem hasError_append (a b : Diagnostics) :
    hasError (a ++ b) = (hasError a || hasError b) := List.any_append

end Diagnostics

end SdnZones
