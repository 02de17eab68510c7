import DiagnosticSieve.Json.Scan

namespace DiagnosticSieve.Json

/-- A place in a list: between two elements, or behind the closing bracket. -/
inductive Cursor
  | inside (text : List Char)
  | behind (rest : List Char)
  deriving DecidableEq, Repr

def readElement {α : Type} (read : List Char → Reading α) (absent : α) :
    Cursor → Except Fault (α × Cursor)
  | .behind rest => .ok (absent, .behind rest)
  | .inside text =>
    match Bracket.list.next false text with
    | .error e => .error e
    | .ok (.close rest) => .ok (absent, .behind rest)
    | .ok (.item item) => (read item).map fun (value, rest) => (value, .inside rest)

def closeList : Cursor → Except Fault (List Char)
  | .behind rest => .ok rest
  | .inside text =>
    match skipBlanks text with
    | [] => .error (.head .endInList [])
    | ']' :: rest => .ok rest
    | ',' :: rest =>
      match skipBlanks rest with
      | ']' :: more => .error (.head .trailingComma (']' :: more))
      | more => .error (.head .trailingText more)
    | rest => .error (.head .trailingText rest)

end DiagnosticSieve.Json
