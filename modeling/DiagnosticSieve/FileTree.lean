import DiagnosticSieve.Path

/-!
File trees: files and directories under their locations, with the errors that an operating system
gives on paths that lead nowhere. Paths are walked piece by piece from the root or from the working
directory, and every piece needs a directory to start from.
-/

namespace DiagnosticSieve

open DiagnosticSieve.Path

inductive OsError
  | notFound | permissionDenied | notADirectory | isADirectory | nameTooLong
  | nulInPath | nulInArgument | invalidText
  deriving DecidableEq, Repr

def OsError.message : OsError → String
  | notFound => "No such file or directory (os error 2)"
  | permissionDenied => "Permission denied (os error 13)"
  | notADirectory => "Not a directory (os error 20)"
  | isADirectory => "Is a directory (os error 21)"
  | nameTooLong => "File name too long (os error 36)"
  | nulInPath => "file name contained an unexpected NUL byte"
  | nulInArgument => "nul byte found in provided data"
  | invalidText => "stream did not contain valid UTF-8"

inductive Entry
  | file (contents : ByteArray) (executable : Bool)
  | directory

abbrev FileTree.Location := List String

structure FileTree where
  entries : List (FileTree.Location × Entry) := [(["usr"], .directory), (["usr", "bin"], .directory)]
  workingDirectory : FileTree.Location := []
  /-- The directories in which programs are looked up by their names alone. An empty path among them is
  the working directory. -/
  searchPath : List String := ["/usr/bin"]

namespace FileTree

def entry? (t : FileTree) (place : Location) : Option Entry :=
  if place = [] then some .directory else t.entries.lookup place

def put (t : FileTree) (place : Location) (entry : Entry) : FileTree :=
  { t with entries := (place, entry) :: t.entries.filter fun e => e.1 ≠ place }

def ensureDirectory (t : FileTree) (place : Location) : FileTree :=
  if (t.entry? place).isSome then t else t.put place .directory

def maxName : Nat := 255

def maxPath : Nat := 4096

def step (here : Location) (piece : List Char) : Except OsError Location :=
  if piece = [] || piece = ['.'] then .ok here
  else if piece = ['.', '.'] then .ok here.dropLast
  else
    let name := String.ofList piece
    if maxName < name.utf8ByteSize then .error .nameTooLong else .ok (here ++ [name])

/-- Follows the pieces of a path. Only the last one may lead to a place where there is nothing. -/
def walk (t : FileTree) (here : Location) : List (List Char) → Except OsError Location
  | [] => .ok here
  | piece :: pieces =>
    match t.entry? here with
    | none => .error .notFound
    | some (.file _ _) => .error .notADirectory
    | some .directory =>
      match step here piece with
      | .error e => .error e
      | .ok next => t.walk next pieces

def origin (t : FileTree) (path : List Char) : Location :=
  if path.head? = some '/' then [] else t.workingDirectory

def checkPath (path : String) : Except OsError Unit :=
  if path.toList.contains '\x00' then .error .nulInPath
  else if path.isEmpty then .error .notFound
  else if maxPath ≤ path.utf8ByteSize then .error .nameTooLong
  else .ok ()

def locate (t : FileTree) (path : String) : Except OsError Location := do
  checkPath path
  t.walk (t.origin path.toList) (split path.toList)

def lookup? (t : FileTree) (path : String) : Except OsError Entry := do
  let place ← t.locate path
  match t.entry? place with
  | some entry => .ok entry
  | none => .error .notFound

def exists? (t : FileTree) (path : String) : Bool :=
  match t.lookup? path with
  | .ok _ => true
  | .error _ => false

def read (t : FileTree) (path : String) : Except OsError ByteArray := do
  match ← t.lookup? path with
  | .file contents _ => .ok contents
  | .directory => .error .isADirectory

def readText (t : FileTree) (path : String) : Except OsError String := do
  let contents ← t.read path
  match String.fromUTF8? contents with
  | some text => .ok text
  | none => .error .invalidText

/-- The location at which a path names a file to be written. A name with a slash after it can only
be a directory. -/
def locateNew (t : FileTree) (path : String) : Except OsError Location := do
  checkPath path
  let pieces := split path.toList
  match pieces.reverse with
  | [] :: before =>
    match before.dropWhile (· = []) with
    | [] => .error .isADirectory
    | last :: front =>
      if last = ['.'] || last = ['.', '.'] then t.walk (t.origin path.toList) pieces
      else do
        let _ ← t.walk (t.origin path.toList) (front.reverse ++ [['.']])
        .error .isADirectory
  | _ => t.walk (t.origin path.toList) pieces

def write (t : FileTree) (path : String) (contents : ByteArray) : Except OsError FileTree := do
  let place ← t.locateNew path
  match t.entry? place with
  | some .directory => .error .isADirectory
  | some (.file _ executable) => .ok (t.put place (.file contents executable))
  | none => .ok (t.put place (.file contents false))

def checkProgram (t : FileTree) (path : String) : Except OsError Unit := do
  match ← t.lookup? path with
  | .file _ true => .ok ()
  | _ => .error .permissionDenied

def within (directory name : String) : String :=
  if directory.isEmpty then name else directory ++ "/" ++ name

def passable : List OsError := [.notFound, .notADirectory, .permissionDenied]

def remember (missed e : OsError) : OsError := if missed = .permissionDenied then missed else e

def search (t : FileTree) (name : String) (missed : OsError) : List String → Except OsError Unit
  | [] => .error missed
  | directory :: directories =>
    match t.checkProgram (within directory name) with
    | .ok () => .ok ()
    | .error e =>
      if e ∈ passable then t.search name (remember missed e) directories else .error e

/-- Whether a program can be started. A name without a slash is looked up in the search path. -/
def startable (t : FileTree) (path : String) : Except OsError Unit :=
  if path.toList.contains '/' then t.checkProgram path
  else if path.isEmpty then .error .notFound
  else t.search path .notFound t.searchPath

def advance (here : Location) : Component → Location
  | .root => []
  | .parent => here.dropLast
  | .name text => here ++ [String.ofList text]

def plant (t : FileTree) (path : String) (entry : Entry) : FileTree :=
  let place := (components path.toList).foldl advance t.workingDirectory
  let ways := (List.range place.length).map fun n => place.take n
  let t := ways.foldl ensureDirectory t
  match t.entry? place, entry with
  | some .directory, _ | some _, .directory => t
  | _, entry => t.put place entry

def files (t : FileTree) : List (String × ByteArray) :=
  t.entries.filterMap fun (place, entry) =>
    match entry with
    | .file contents _ =>
      if t.workingDirectory.isPrefixOf place then
        some (String.intercalate "/" (place.drop t.workingDirectory.length), contents)
      else none
    | .directory => none

end FileTree

end DiagnosticSieve
