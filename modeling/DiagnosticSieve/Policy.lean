import DiagnosticSieve.Policy.Ownership

/-!
The policy: which kinds are suppressed in which module, and who owns a module. It is built once,
from all libraries of the closure and the kinds suppressed everywhere.
-/

namespace DiagnosticSieve

structure Policy where
  everywhere : KindSet
  /-- Modules in which every kind is suppressed. -/
  lenient : List String
  owners : OwnerIndex

namespace Policy

def unknownModule : String := "unknown module"

def summaryRecord (policy : Policy) : LogRecord :=
  .debug ("Diagnostic policy: " ++ toString policy.lenient.length ++ " legacy modules, " ++
    toString policy.owners.suppressions.length ++ " modules with suppressions, " ++
    toString policy.everywhere.size ++ " global suppressions")

def build (libraries : List Library) (everywhere : KindSet) : Attempt OwnershipError Policy := do
  let owners ← OwnerIndex.build libraries
  let policy : Policy := ⟨everywhere, legacyModules libraries, owners⟩
  .note policy.summaryRecord
  pure policy

def isLegacy (policy : Policy) (moduleName : String) : Bool := policy.lenient.contains moduleName

def suppresses (policy : Policy) (moduleName : String) (k : Kind) : Bool :=
  policy.everywhere.contains k || policy.isLegacy moduleName ||
    (policy.owners.kindsOf moduleName).contains k

def labelOf? (policy : Policy) (moduleName : String) : Option String :=
  policy.owners.labelOf? moduleName

def attribution (policy : Policy) (moduleName : String) : String :=
  (policy.labelOf? moduleName).getD unknownModule

end Policy

end DiagnosticSieve
