import DiagnosticSieve.Compiler
import DiagnosticSieve.Library.Loading
import DiagnosticSieve.Outcome
import DiagnosticSieve.Sieve
import DiagnosticSieve.SuppressionCode

/-!
Runs: one compilation under the policy that its settings describe, from the descriptions of the
libraries to the exit code. Problems of the settings and of files are errors; diagnostics never are.
-/

namespace DiagnosticSieve

open Text

inductive RunError
  | load (e : LoadError)
  | unknownCode (code : String)
  | ownership (e : OwnershipError)
  | compiler (e : CompilerError)
  | write (e : WriteError)
  deriving DecidableEq, Repr

def RunError.message : RunError → String
  | load e => e.message
  | unknownCode code => "Unknown suppression code \"" ++ code ++ "\" passed to --suppress"
  | ownership e => e.message
  | compiler e => e.message
  | write e => e.message

namespace Settings

def compiles (s : Settings) : Bool := compilesAnything s.passThrough

def everywhere (s : Settings) : Except RunError KindSet :=
  (resolveCodes s.suppressCodes).mapError .unknownCode

def policy (s : Settings) (files : FileTree) : Attempt RunError Policy := do
  let libraries ← (Library.loadAll files s.infos).mapError .load
  let kinds ← .lift s.everywhere
  (Policy.build libraries kinds).mapError .ownership

end Settings

structure Compiled where
  sieve : Sieve
  status : Int

namespace Compiled

def statusRecord (status : Int) : LogRecord := .debug ("Compiler exited with " ++ toString status)

/-- Passes a compilation through the sieve. -/
def ofCompilation (sieve : Sieve) (c : Compilation) : Session RunError Compiled := fun _ =>
  let after := sieve.reportAll c.diagnostics
  let events := c.opening ++ after.records.map .record ++ c.closing
  match c.status with
  | .ok status => ⟨events ++ [.record (statusRecord status)], c.files, .ok ⟨after, status⟩⟩
  | .error e => ⟨events, c.files, .error (.compiler e)⟩

def ofSettings (s : Settings) (compiler : Backend) (sieve : Sieve) : Session RunError Compiled :=
  if compiler.shouldRun s.passThrough then
    fun files => ofCompilation sieve (compiler.compile s.passThrough files) files
  else pure ⟨sieve, 0⟩

def outcome (c : Compiled) (s : Settings) : Outcome :=
  Outcome.ofSettings s (c.status ≠ 0) c.sieve.hasErrors

def shown (c : Compiled) (colorize : Bool) : List Event :=
  if c.sieve.surfaced.isEmpty then []
  else
    c.sieve.surfaced.map (fun x => .text (paint x.text (some x.severity) colorize)) ++
      [.text (paint c.sieve.summary none colorize)]

def captured (c : Compiled) : String :=
  let text := joinLines c.sieve.outputLines
  if text.isEmpty then text else text ++ "\n"

def capture (c : Compiled) (s : Settings) : Session WriteError Unit :=
  match s.outputErrors with
  | some path => .write path c.captured.toUTF8
  | none => pure ()

/-- All that follows the compilation; gives the exit code. -/
def conclude (c : Compiled) (s : Settings) (colorize : Bool) : Session WriteError Nat := do
  .note c.sieve.countsRecord
  if (c.outcome s).showsDiagnostics then .emit (c.shown colorize)
  c.capture s
  let decision ← (c.outcome s).finalize
  if decision.missingFailure then .say (paint Decision.missingFailureNotice none colorize)
  pure decision.exitCode

end Compiled

def run (s : Settings) (compiler : Backend) (colorize : Bool) : Session RunError Nat := do
  let policy ← .consult s.policy
  let compiled ← Compiled.ofSettings s compiler { policy, roots := s.roots }
  (compiled.conclude s colorize).mapError .write

end DiagnosticSieve
