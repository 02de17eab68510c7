/-!
Libraries: what the build knows about the targets whose sources are compiled together.
-/

namespace DiagnosticSieve

structure Library where
  /-- The build target that owns the modules. -/
  label : String
  modules : List String := []
  /-- Suppression codes that the owner opted into for its own modules. -/
  suppressions : List String := []
  /-- Set for targets that predate strict checking. -/
  legacy : Bool := false
  deriving DecidableEq, Repr

namespace Library

def strict (lib : Library) : Bool := !lib.legacy

end Library

def strictModules (libraries : List Library) : List String :=
  (libraries.filter Library.strict).flatMap Library.modules

/-- The modules that some legacy library lists and no strict one does, each of them once. -/
def legacyModules (libraries : List Library) : List String :=
  (((libraries.filter Library.legacy).flatMap Library.modules).filter fun m =>
    !(strictModules libraries).contains m).eraseDups

end DiagnosticSieve
