import DiagnosticSieve.Compiler
import DiagnosticSieve.Settings
import DiagnosticSieve.Text.Utf8
import DiagnosticSieve.Transcript

/-!
Compilers that are programs. The diagnostics are read from what the program writes to its standard
error stream; a failure that they explain is left to them.
-/

namespace DiagnosticSieve

inductive ExitStatus
  | code (n : Int)
  | killed
  deriving DecidableEq, Repr

def ExitStatus.value : ExitStatus → Int
  | code n => n
  | killed => 1

structure Execution where
  files : FileTree
  output : ByteArray := ByteArray.empty
  errorOutput : ByteArray := ByteArray.empty
  status : ExitStatus := .code 0

abbrev Program := List String → FileTree → Execution

namespace Program

def startRecord (executable : String) (arguments : List String) : LogRecord :=
  .debug ("Running " ++ executable ++ " with " ++ toString arguments.length ++ " arguments")

def deferRecord (status : Int) : LogRecord :=
  .debug ("Compiler exited with " ++ toString status ++
    " after reporting errors; deferring to surfaced diagnostics")

def startError (executable : String) (reason : OsError) : CompilerError :=
  ⟨"Could not run compiler " ++ executable ++ ": " ++ reason.message⟩

/-- Whether a program can be started with such arguments, none of which may hold a NUL. -/
def checkStart (files : FileTree) (executable : String) (arguments : List String) :
    Except OsError Unit :=
  if (executable :: arguments).any fun text => text.toList.contains '\x00' then
    .error .nulInArgument
  else files.startable executable

def explained (t : Transcript) (status : Int) : Bool := status ≠ 0 && t.hasError

def transcript (x : Execution) : Transcript :=
  Transcript.ofString (String.ofList (Text.decodeLossy x.errorOutput.toList))

def compilation (arguments : List String) (start : Event) (x : Execution) : Compilation :=
  let t := transcript x
  let status := x.status.value
  { opening := [start, .started arguments, .output x.output] ++ t.records.map .record
    diagnostics := t.diagnostics
    closing := if explained t status then [.record (deferRecord status)] else []
    files := x.files
    status := .ok (if explained t status then 0 else status) }

/-- The program as a compiler. Its arguments are those of the run and those that the settings
imply. -/
def compiler (program : Program) (executable : String) (s : Settings) : Compiler :=
  fun arguments files =>
    let arguments := arguments ++ s.impliedFlags
    let start : Event := .record (startRecord executable arguments)
    match checkStart files executable arguments with
    | .error reason =>
      { opening := [start], files, status := .error (startError executable reason) }
    | .ok () => compilation arguments start (program arguments files)

end Program

end DiagnosticSieve
