import DiagnosticSieve.Session
import DiagnosticSieve.Settings

/-!
Outcomes: what a finished compilation means for the build. It succeeds if it failed exactly when it
was expected to, and the files that the build declares exist afterwards.
-/

namespace DiagnosticSieve

structure Decision where
  succeeded : Bool
  emptyOutputs : Bool
  missingFailure : Bool
  deriving DecidableEq, Repr

namespace Decision

def exitCode (d : Decision) : Nat := if d.succeeded then 0 else 1

def missingFailureNotice : String := "ERROR: Expected failure but didn't fail."

end Decision

structure Outcome where
  /-- The compiler failed without an error that explains it. -/
  compilerFailed : Bool := false
  hasErrors : Bool := false
  expectFailure : Bool := false
  expectWarnings : Bool := false
  checksOnly : Bool := false
  jsOutputFile : Option String := none
  sourceMap : Option String := none
  deriving DecidableEq, Repr

namespace Outcome

def ofSettings (s : Settings) (compilerFailed hasErrors : Bool) : Outcome where
  compilerFailed := compilerFailed
  hasErrors := hasErrors
  expectFailure := s.expectFailure
  expectWarnings := s.expectWarnings
  checksOnly := s.checksOnly
  jsOutputFile := s.jsOutputFile
  sourceMap := s.createSourceMap

def failed (o : Outcome) : Bool := o.compilerFailed || o.hasErrors

def decide (o : Outcome) : Decision where
  succeeded := o.failed = o.expectFailure
  emptyOutputs := o.failed && o.expectFailure || o.checksOnly
  missingFailure := !o.failed && o.expectFailure

def showsDiagnostics (o : Outcome) : Bool := !o.expectFailure && !o.expectWarnings

def emptyOutput (o : Outcome) : Session WriteError Unit :=
  match o.jsOutputFile with
  | some path =>
    if o.decide.emptyOutputs then do
      .note (.debug ("Writing empty output " ++ path))
      .write path ByteArray.empty
    else pure ()
  | none => pure ()

def ensureSourceMap (o : Outcome) : Session WriteError Unit :=
  match o.sourceMap with
  | some path => do
    if ← .pathExists path then pure ()
    else
      .note (.debug ("Compiler did not write " ++ path ++ ", creating it empty"))
      .write path ByteArray.empty
  | none => pure ()

def finalize (o : Outcome) : Session WriteError Decision := do
  o.emptyOutput
  o.ensureSourceMap
  pure o.decide

end Outcome

end DiagnosticSieve
