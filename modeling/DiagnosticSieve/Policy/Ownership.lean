import DiagnosticSieve.Library
import DiagnosticSieve.Log
import DiagnosticSieve.SuppressionCode

/-!
Ownership: which strict library owns a module, and which kinds that library suppresses in it. The
first library that lists a module owns it; later ones have to agree with it on the kinds.
-/

namespace DiagnosticSieve

inductive OwnershipError
  | unknownCode (code label : String)
  | conflict (moduleName owner claimant : String)
  deriving DecidableEq, Repr

def OwnershipError.message : OwnershipError → String
  | unknownCode code label =>
    "Unknown suppression code \"" ++ code ++ "\" in the suppress attribute of " ++ label
  | conflict moduleName owner claimant =>
    "Module \"" ++ moduleName ++ "\" is declared by both " ++ owner ++ " and " ++ claimant ++
      " with different suppressions. A module must have a single owner."

/-- What strict libraries declare, by module. A module whose owner suppresses nothing has a label
and no kinds. -/
structure OwnerIndex where
  labels : List (String × String) := []
  suppressions : List (String × KindSet) := []

namespace OwnerIndex

def labelOf? (index : OwnerIndex) (moduleName : String) : Option String :=
  index.labels.lookup moduleName

def kindsOf (index : OwnerIndex) (moduleName : String) : KindSet :=
  (index.suppressions.lookup moduleName).getD ∅

def insert (index : OwnerIndex) (moduleName label : String) (kinds : KindSet) : OwnerIndex where
  labels := (moduleName, label) :: index.labels
  suppressions :=
    if kinds.isEmpty then index.suppressions else (moduleName, kinds) :: index.suppressions

def sharedRecord (moduleName label owner : String) : LogRecord :=
  .debug ("Module \"" ++ moduleName ++ "\" is also declared by " ++ label ++ ", keeping " ++ owner ++
    " as owner")

def claim (label : String) (kinds : KindSet) (index : OwnerIndex) (moduleName : String) :
    Attempt OwnershipError OwnerIndex :=
  match index.labelOf? moduleName with
  | none => pure (index.insert moduleName label kinds)
  | some owner =>
    if index.kindsOf moduleName ≠ kinds then .refuse (.conflict moduleName owner label)
    else if owner = label then pure index
    else do
      .note (sharedRecord moduleName label owner)
      pure index

/-- Enters one library. Legacy libraries own nothing, and the codes of a library without modules are
not looked at. -/
def enter (index : OwnerIndex) (lib : Library) : Attempt OwnershipError OwnerIndex :=
  if lib.legacy || lib.modules.isEmpty then pure index
  else
    match resolveCodes lib.suppressions with
    | .error code => .refuse (.unknownCode code lib.label)
    | .ok kinds => lib.modules.foldlM (claim lib.label kinds) index

def build (libraries : List Library) : Attempt OwnershipError OwnerIndex :=
  libraries.foldlM enter {}

end OwnerIndex

end DiagnosticSieve
