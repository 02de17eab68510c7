import DiagnosticSieve.Diagnostic
import DiagnosticSieve.Session

/-!
Compilers, as a run sees them: given arguments and files, a compiler reports diagnostics, leaves files
behind and ends with an exit status or an error.
-/

namespace DiagnosticSieve

structure CompilerError where
  message : String
  deriving DecidableEq, Repr

structure Compilation where
  opening : List Event := []
  diagnostics : List Diagnostic := []
  closing : List Event := []
  files : FileTree
  status : Except CompilerError Int

abbrev Compiler := List String → FileTree → Compilation

/-- Arguments that ask for help or the version do not compile anything. -/
def compilesAnything (arguments : List String) : Bool :=
  !arguments.any fun text => text = "--help" || text = "--version"

/-- A compiler as a run is given it, which says itself on which arguments it is run at all. -/
structure Backend where
  compile : Compiler
  shouldRun : List String → Bool := compilesAnything

instance : Coe Compiler Backend where
  coe compile := { compile }

end DiagnosticSieve
