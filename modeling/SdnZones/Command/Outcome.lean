-- SUMMARY: What a command prints and how it fails.
import SdnZones.Diagnostic

/-!
# Outcomes of commands

A command prints to two streams and may fail. A failure has a message and the causes
behind it, outermost first. Diagnostics are reported at once: warnings are printed, and
errors make one failure.
-/

namespace SdnZones

/-- Why a command failed. -/
structure Failure where
  message : String
  /-- What led to it, outermost first. -/
  causes : List String := []
deriving DecidableEq

/-- A failure in a wider context. -/
def Failure.within (f : Failure) (context : String) : Failure :=
  ⟨context, f.message :: f.causes⟩

/-- A failure from the texts of its chain. -/
def Failure.ofChain (context : String) (chain : List String) : Failure := ⟨context, chain⟩

/-- What was printed, and the result unless there was a failure. -/
structure Printed (α : Type) where
  out : String := ""
  err : String := ""
  result : Except Failure α

namespace Printed

variable {α β : Type}

/-- A failure with nothing printed. -/
def fail (f : Failure) : Printed α := { result := .error f }

/-- A line printed to the first stream. -/
def sayLine (line : String) : Printed Unit := { out := line ++ "\n", result := .ok () }

/-- Go on with a result, after what was printed so far. -/
def andThen (p : Printed α) (q : Printed β) : Printed β :=
  { q with out := p.out ++ q.out, err := p.err ++ q.err }

end Printed

/-- A warning as it is printed. -/
def Diagnostic.warningLine (d : Diagnostic) : String := s!"Warning: {d.text}\n"

/-- Warnings as they are printed. -/
def Diagnostics.warningLines (ds : Diagnostics) : String :=
  String.join ((Diagnostics.warnings ds).map Diagnostic.warningLine)

/-- Print the warnings, and fail if there is an error. -/
def Diagnostics.report (ds : Diagnostics) : Printed Unit where
  err := Diagnostics.warningLines ds
  result :=
    match Diagnostics.failure? ds with
    | some text => .error { message := text }
    | none => .ok ()

end SdnZones
