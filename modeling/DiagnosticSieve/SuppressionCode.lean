import DiagnosticSieve.KindSet
import DiagnosticSieve.Text.Basic

/-!
Suppression codes. A code is the name of a group or the spelling of a key, and stands for a set of
kinds. Blanks around a code are ignored; group names keep their case, keys do not need to.
-/

namespace DiagnosticSieve

def Group.ofName? (code : String) : Option Group :=
  let name := String.ofList (Text.trim code.toList)
  Group.all.find? fun g => g.name = name

def Kind.bareSpelling (code : List Char) : List Char :=
  match (Text.trim code).map Char.toUpper with
  | 'J' :: 'S' :: 'C' :: '_' :: rest => rest
  | upper => upper

def Kind.ofKey? (code : String) : Option Kind :=
  let spelling := String.ofList (Kind.bareSpelling code.toList)
  Kind.all.find? fun k => k.bareKey = spelling

/-- The kinds that a suppression code stands for, or nothing if the registry does not know it. -/
def kindsOfCode? (code : String) : Option (List Kind) :=
  match Group.ofName? code with
  | some g => some g.kinds
  | none => (Kind.ofKey? code).map fun k => [k]

/-- The union of what the codes stand for, or the first code that the registry does not know. -/
def resolveCodes : List String → Except String KindSet
  | [] => .ok ∅
  | code :: codes =>
    match kindsOfCode? code with
    | none => .error code
    | some kinds => (resolveCodes codes).map (KindSet.ofList kinds ∪ ·)

end DiagnosticSieve
