import DiagnosticSieve.Settings
import DiagnosticSieve.Log

/-!
Invocations: the options of the runner itself, which stand before the arguments of a run. The first
argument that is none of them starts the arguments, and so does a separator, which is dropped;
whatever stands behind is not looked at.
-/

namespace DiagnosticSieve

inductive Switch
  | noColor | verbose | quiet | help | version
  deriving DecidableEq, Repr

inductive Word
  | separator
  | compiler (value : Option String)
  | switches (list : List Switch)
  /-- A switch that carries a value. -/
  | overloaded
  | other
  deriving DecidableEq, Repr

namespace Switch

def ofName? : String → Option Switch
  | "--no-color" => some noColor
  | "--verbose" => some verbose
  | "--quiet" => some quiet
  | "--help" => some help
  | "--version" => some version
  | _ => none

def ofLetter? : Char → Option Switch
  | 'v' => some verbose
  | 'q' => some quiet
  | 'h' => some help
  | 'V' => some version
  | _ => none

end Switch

namespace Word

def ofLetters (letters : List Char) : Word :=
  match letters, letters.mapM Switch.ofLetter? with
  | _ :: _, some list => switches list
  | _, _ => other

def ofArgument (text : String) : Word :=
  match text, Argument.split text with
  | "--", _ => separator
  | _, ("--compiler", value) => compiler value
  | _, (flag, value) =>
    match Switch.ofName? flag, value with
    | some s, none => switches [s]
    | some _, some _ => overloaded
    | none, _ =>
      match text.toList with
      | '-' :: letters => ofLetters letters
      | _ => other

end Word

/-- Why no run is started. The first two are wishes, not mistakes. -/
inductive NoRun
  | help | version | missingCompiler | invalidCompiler | conflict | unwantedValue
  deriving DecidableEq, Repr

abbrev Count := Fin 256

def Count.raise (c : Count) (times : Nat) : Count := ⟨min (c.val + times) 255, by omega⟩

structure Options where
  compiler : Option String := none
  noColor : Bool := false
  verbose : Count := 0
  quiet : Count := 0
  deriving DecidableEq, Repr

structure Invocation where
  limit : Option Level
  compiler : String
  noColor : Bool
  arguments : List String
  deriving DecidableEq, Repr

namespace Options

def setCompiler (o : Options) (value : String) : Except NoRun Options :=
  if o.compiler.isSome then .error .conflict
  else if value.isEmpty then .error .invalidCompiler
  else .ok { o with compiler := some value }

def set (o : Options) : Switch → Except NoRun Options
  | .noColor => if o.noColor then .error .conflict else .ok { o with noColor := true }
  | .verbose => .ok { o with verbose := o.verbose.raise 1 }
  | .quiet => .ok { o with quiet := o.quiet.raise 1 }
  | .help => .error .help
  | .version => .error .version

def limit (o : Options) : Option Level :=
  Level.ofRank? (min (Level.warn.rank + o.verbose.val - o.quiet.val) Level.trace.rank)

def invocation (o : Options) (arguments : List String) : Except NoRun Invocation :=
  if 0 < o.verbose && 0 < o.quiet then .error .conflict
  else
    match o.compiler with
    | none => .error .missingCompiler
    | some compiler => .ok ⟨o.limit, compiler, o.noColor, arguments⟩

end Options

namespace Invocation

/-- A separate value counts only once the argument behind it is known not to be overloaded. -/
def checkNext (rest : List String) : Except NoRun Unit :=
  if (rest.head?.map Word.ofArgument) = some .overloaded then .error .unwantedValue else .ok ()

def parseFrom (o : Options) : List String → Except NoRun Invocation
  | [] => o.invocation []
  | text :: rest =>
    match Word.ofArgument text with
    | .separator => o.invocation rest
    | .other => o.invocation (text :: rest)
    | .overloaded => .error .unwantedValue
    | .switches list => do
      let o ← list.foldlM Options.set o
      parseFrom o rest
    | .compiler (some value) => do
      let o ← o.setCompiler value
      parseFrom o rest
    | .compiler none =>
      match rest with
      | [] => .error .invalidCompiler
      | value :: rest =>
        match Word.ofArgument value with
        | .other => do
          checkNext rest
          let o ← o.setCompiler value
          parseFrom o rest
        | .overloaded => .error .unwantedValue
        | _ => .error .invalidCompiler

def parse (arguments : List String) : Except NoRun Invocation := parseFrom {} arguments

end Invocation

end DiagnosticSieve
