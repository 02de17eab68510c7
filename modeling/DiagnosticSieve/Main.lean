import DiagnosticSieve.CommandLine

namespace DiagnosticSieve

def namedPaths (arguments : List String) : List String :=
  match Invocation.parse arguments with
  | .error _ => []
  | .ok i =>
    match Settings.ofArguments i.arguments with
    | .error _ => []
    | .ok s =>
      s.infos ++ s.outputErrors.toList ++ s.jsOutputFile.toList ++ s.createSourceMap.toList

def directoryOf (path : String) : String :=
  let front := (Path.split path.toList).dropLast.map String.ofList
  if front = [] then "." else String.intercalate "/" front ++ "/"

def survey (files : FileTree) (path : String) : IO FileTree := do
  let files ← try
      let _ ← IO.FS.realPath (directoryOf path)
      pure (files.plant (directoryOf path) .directory)
    catch _ => pure files
  try
    let contents ← IO.FS.readBinFile path
    pure (files.plant path (.file contents false))
  catch _ => pure files

def restore (before : FileTree) (reply : Reply) (path : String) : IO Unit := do
  match reply.files.read path with
  | .error _ => pure ()
  | .ok contents =>
    let same := match before.read path with
      | .ok earlier => earlier.data = contents.data
      | .error _ => false
    if !same then IO.FS.writeBinFile path contents

def serve (arguments : List String) : IO UInt32 := do
  let errorOutput ← (← IO.getStdin).readBinToEnd
  let start : FileTree := { workingDirectory := ["work"] }
  let compiler := ((Invocation.parse arguments).toOption.map Invocation.compiler).getD "."
  let place := if compiler.toList.contains '/' then compiler else FileTree.within "/usr/bin" compiler
  let start := (start.plant "." .directory).plant place (.file ByteArray.empty true)
  let files ← (namedPaths arguments).foldlM survey start
  let reply := commandLine arguments (fun _ files => { files, errorOutput }) files
  (namedPaths arguments).forM (restore files reply)
  (← IO.getStdout).write reply.output
  (← IO.getStderr).putStr (reply.errorText.getD "")
  pure reply.exitCode.toUInt32

end DiagnosticSieve

def main (arguments : List String) : IO UInt32 := DiagnosticSieve.serve arguments
