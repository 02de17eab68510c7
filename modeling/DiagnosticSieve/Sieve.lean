import DiagnosticSieve.ModuleName
import DiagnosticSieve.Rendering

/-!
The sieve through which all diagnostics of a run go. A diagnostic that the policy suppresses is
counted and logged; any other is surfaced, that is rendered and counted by its severity.
-/

namespace DiagnosticSieve

open Text

/-- The module that a diagnostic belongs to, which has no name if there is no file. -/
def Diagnostic.moduleIn (d : Diagnostic) (roots : List String) : String :=
  (d.file.map (moduleName roots)).getD ""

structure Surfaced where
  severity : Severity
  moduleName : String
  text : String
  deriving DecidableEq, Repr

structure Sieve where
  policy : Policy
  roots : List String
  surfaced : List Surfaced := []
  errors : Nat := 0
  warnings : Nat := 0
  suppressed : Nat := 0
  records : List LogRecord := []

namespace Sieve

def moduleOf (s : Sieve) (d : Diagnostic) : String := d.moduleIn s.roots

/-- Whether the policy suppresses a diagnostic. One of no registered kind is suppressed only where
everything is. -/
def suppresses (s : Sieve) (d : Diagnostic) : Bool :=
  match d.kind? with
  | some k => s.policy.suppresses (s.moduleOf d) k
  | none => s.policy.isLegacy (s.moduleOf d)

def suppressedRecord (s : Sieve) (d : Diagnostic) : LogRecord :=
  .debug ("Suppressed " ++ d.key.getD "<no key>" ++ " in module \"" ++ s.moduleOf d ++ "\"")

def surface (s : Sieve) (d : Diagnostic) : Surfaced :=
  ⟨d.severity, s.moduleOf d, d.render s.policy (s.moduleOf d)⟩

def offer (s : Sieve) (d : Diagnostic) : Bool × Sieve :=
  if s.suppresses d then
    (false, { s with
      suppressed := s.suppressed + 1
      records := s.records ++ [s.suppressedRecord d] })
  else
    (true, { s with
      surfaced := s.surfaced ++ [s.surface d]
      errors := if d.severity = .error then s.errors + 1 else s.errors
      warnings := if d.severity = .warning then s.warnings + 1 else s.warnings })

def report (s : Sieve) (d : Diagnostic) : Sieve := (s.offer d).2

def reportAll (s : Sieve) (ds : List Diagnostic) : Sieve := ds.foldl report s

def answers (s : Sieve) : List Diagnostic → List Bool
  | [] => []
  | d :: ds => (s.offer d).1 :: (s.report d).answers ds

def hasErrors (s : Sieve) : Bool := 0 < s.errors

def summary (s : Sieve) : String := summaryLine s.errors s.warnings

def outputLines (s : Sieve) : List String :=
  s.surfaced.flatMap (fun x => stringLines x.text) ++
    if s.surfaced.isEmpty then [] else [s.summary]

def countsRecord (s : Sieve) : LogRecord :=
  .info (s.summary ++ ", " ++ toString s.suppressed ++ " suppressed")

end Sieve

end DiagnosticSieve
