import DiagnosticSieve.Path

/-!
Module names. The module of a source file is its path below the longest module root, without the
extension of a source file.
-/

namespace DiagnosticSieve

open DiagnosticSieve.Path

def sourceExtensions : List (List Char) :=
  ["js".toList, "mjs".toList, "jsx".toList, "ts".toList]

/-- What is left of the last component of a path without its source extension. A stem of dots alone
has a meaning of its own in a path and is no name. -/
def Path.Component.stem : Component → List Component
  | .name text =>
    match splitExtension? text with
    | some (stem, extension) =>
      if sourceExtensions.contains extension then (Component.ofPiece? stem).toList
      else [.name text]
    | none => [.name text]
  | other => [other]

def withoutExtension (path : List Component) : List Component :=
  path.dropLast ++ (path.getLast?.map Component.stem).getD []

/-- The longest of the roots that are a proper part of paths and a prefix of this one; the empty
path if there is none. -/
def longestRoot (path : List Component) (roots : List (List Component)) : List Component :=
  (roots.filter fun r => r ≠ [] && r.isPrefixOf path).foldl
    (fun best r => if best.length ≤ r.length then r else best) []

def joinNames (path : List Component) : String :=
  String.intercalate "/" ((path.filterMap Component.name?).map String.ofList)

def moduleName (roots : List String) (file : String) : String :=
  let path := components file.toList
  let root := longestRoot path (roots.map fun r => components r.toList)
  joinNames (withoutExtension (path.drop root.length))

end DiagnosticSieve
