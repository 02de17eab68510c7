import DiagnosticSieve.SuppressionCode

namespace DiagnosticSieve

inductive Severity
  | warning | error
  deriving DecidableEq, Repr

namespace Severity

def word : Severity → String
  | warning => "WARNING"
  | error => "ERROR"

end Severity

structure Diagnostic where
  severity : Severity
  key : Option String
  message : String
  file : Option String := none
  line : Option UInt32 := none
  column : Option UInt32 := none
  excerpt : List String := []
  deriving DecidableEq, Repr

namespace Diagnostic

def kind? (d : Diagnostic) : Option Kind := d.key.bind Kind.ofKey?

end Diagnostic

end DiagnosticSieve
