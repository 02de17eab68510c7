import DiagnosticSieve.Compiler.Program
import DiagnosticSieve.Invocation
import DiagnosticSieve.Run

namespace DiagnosticSieve

structure Reply where
  exitCode : Nat
  output : ByteArray := ByteArray.empty
  /-- What is written to the error stream. Nothing is said about the wording of usage messages. -/
  errorText : Option String := some ""
  files : FileTree
  compilerArguments : Option (List String) := none

namespace NoRun

def exitCode : NoRun → Nat
  | help | version => 0
  | _ => 2

def versionText : String := "closure-runner 0.1.0\n"

def reply (n : NoRun) (files : FileTree) : Reply where
  exitCode := n.exitCode
  output := if n = .version then versionText.toUTF8 else ByteArray.empty
  errorText := if n.exitCode = 0 then some "" else none
  files := files

end NoRun

namespace Invocation

def eventText (limit : Option Level) : Event → String
  | .record r => if r.passes limit then r.level.name ++ ":\n" ++ r.message ++ "\n" else ""
  | .text lines => lines ++ "\n"
  | _ => ""

def ending (result : Except RunError Nat) : Nat × String :=
  match result with
  | .ok code => (code, "")
  | .error e => (1, e.message ++ "\n")

def execute (i : Invocation) (program : Program) (files : FileTree) : Reply :=
  match Settings.ofArguments i.arguments with
  | .error e => { exitCode := 1, errorText := some (e.message ++ "\n"), files }
  | .ok s =>
    let progress := run s (program.compiler i.compiler s) false files
    let (exitCode, last) := ending progress.result
    { exitCode
      output := progress.output
      errorText := some (String.join (progress.events.map (eventText i.limit)) ++ last)
      files := progress.files
      compilerArguments := progress.compilerArguments }

end Invocation

def commandLine (arguments : List String) (program : Program) (files : FileTree) : Reply :=
  match Invocation.parse arguments with
  | .error n => n.reply files
  | .ok i => i.execute program files

end DiagnosticSieve
