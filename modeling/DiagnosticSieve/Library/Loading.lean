import DiagnosticSieve.FileTree
import DiagnosticSieve.Library.Parser
import DiagnosticSieve.Log
import DiagnosticSieve.Text.Basic

namespace DiagnosticSieve

open Text

inductive LoadError
  | unreadable (path : String) (reason : OsError)
  | malformed (path : String) (cause : Json.Cause) (place : Json.Position)
  | blankLabel (path : String)
  deriving DecidableEq, Repr

def LoadError.message : LoadError → String
  | unreadable path reason => "Could not read library info " ++ path ++ ": " ++ reason.message
  | malformed path cause place =>
    "Malformed library info " ++ path ++ ": " ++ cause.message ++ " at " ++ place.text
  | blankLabel path => "Malformed library info " ++ path ++ ": empty label"

namespace Library

def ofText (path text : String) : Except LoadError Library :=
  match parse text.toList with
  | .error fault => .error (.malformed path fault.cause (fault.position text.toList))
  | .ok lib => if allBlank lib.label.toList then .error (.blankLabel path) else .ok lib

def load (files : FileTree) (path : String) : Except LoadError Library :=
  match files.readText path with
  | .error reason => .error (.unreadable path reason)
  | .ok text => ofText path text

def loadedRecord (count : Nat) : LogRecord :=
  .debug ("Loaded " ++ toString count ++ " library descriptors")

def loadAll (files : FileTree) (paths : List String) : Attempt LoadError (List Library) := do
  let libraries ← .lift (paths.mapM (load files))
  .note (loadedRecord libraries.length)
  pure libraries

end Library

end DiagnosticSieve
