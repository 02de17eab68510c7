import DiagnosticSieve.Diagnostic
import DiagnosticSieve.Policy
import DiagnosticSieve.Text.Basic

namespace DiagnosticSieve

open Text

namespace Diagnostic

/-- The file, and after it the line and the column as far as they are known. A column is written only
after a line. -/
def locationText (d : Diagnostic) : String :=
  match d.file, d.line, d.column with
  | none, _, _ => ""
  | some file, none, _ => file ++ ": "
  | some file, some line, none => file ++ ":" ++ toString line ++ ": "
  | some file, some line, some column =>
    file ++ ":" ++ toString line ++ ":" ++ toString column ++ ": "

def keyText (d : Diagnostic) : String :=
  match d.key with
  | none => ""
  | some key => "[" ++ key ++ "] "

def headerText (d : Diagnostic) : String :=
  d.locationText ++ d.severity.word ++ " - " ++ d.keyText ++ d.message

/-- Tells the codes that would suppress a diagnostic of a registered kind. A source file can carry
the group itself. -/
def hintLines (d : Diagnostic) (attribution : String) : List String :=
  match d.kind? with
  | none => []
  | some k =>
    ["  ProTip: \"" ++ k.key ++ "\" or \"" ++ k.group.name ++
        "\" can be added to the `suppress` attribute of:",
      "  " ++ attribution] ++
    if d.file.isSome then
      ["  Alternatively /** @suppress \x7b" ++ k.group.name ++ "\x7d */ can be added to the source file."]
    else []

def render (policy : Policy) (moduleName : String) (d : Diagnostic) : String :=
  joinLines (d.headerText :: d.excerpt ++ d.hintLines (policy.attribution moduleName))

end Diagnostic

def summaryLine (errors warnings : Nat) : String :=
  toString errors ++ " error(s), " ++ toString warnings ++ " warning(s)"

def paint (text : String) (severity : Option Severity) (colorize : Bool) : String :=
  let code :=
    match severity with
    | some .error => "31"
    | some .warning => "33"
    | none => "1"
  if colorize then "\x1b[" ++ code ++ "m" ++ text ++ "\x1b[0m" else text

end DiagnosticSieve
