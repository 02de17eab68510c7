/-!
Paths: the pieces between slashes, and the components that are left when pieces without effect are
dropped.
-/

namespace DiagnosticSieve.Path

def split : List Char → List (List Char)
  | [] => [[]]
  | c :: rest =>
    if c = '/' then [] :: split rest
    else
      match split rest with
      | [] => [[c]]
      | piece :: more => (c :: piece) :: more

inductive Component
  | root
  | parent
  | name (text : List Char)
  deriving DecidableEq, Repr

/-- The component that a piece stands for. Empty pieces and single dots stand for none. -/
def Component.ofPiece? : List Char → Option Component
  | [] => none
  | ['.'] => none
  | ['.', '.'] => some .parent
  | text => some (.name text)

def Component.name? : Component → Option (List Char)
  | .name text => some text
  | _ => none

def components (path : List Char) : List Component :=
  let pieces := (split path).filterMap Component.ofPiece?
  if path.head? = some '/' then .root :: pieces else pieces

def splitExtension? (text : List Char) : Option (List Char × List Char) :=
  match text.reverse.dropWhile (· ≠ '.') with
  | [] => none
  | _ :: [] => none
  | _ :: stem => some (stem.reverse, (text.reverse.takeWhile (· ≠ '.')).reverse)

end DiagnosticSieve.Path
