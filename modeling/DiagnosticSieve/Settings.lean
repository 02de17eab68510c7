/-!
Settings: the argument list of a run, taken apart into what the runner itself needs and what goes to
the compiler. An argument stands at a flag position unless it is the separate value of `--info`,
`--output_errors` or `--suppress`; only arguments at flag positions are looked at.
-/

namespace DiagnosticSieve

namespace Argument

def split (text : String) : String × Option String :=
  let flag := text.toList.takeWhile (· ≠ '=')
  match text.toList.dropWhile (· ≠ '=') with
  | _ :: value =>
    if "--".toList.isPrefixOf flag then (String.ofList flag, some (String.ofList value))
    else (text, none)
  | [] => (text, none)

example : split "--a=b=c" = ("--a", some "b=c") := by decide
example : split "-a=b" = ("-a=b", none) := by decide

end Argument

inductive SettingsError
  | missingValue (flag : String)
  | invalidValue (flag value : String)
  deriving DecidableEq, Repr

def SettingsError.message : SettingsError → String
  | missingValue flag => "Missing value for " ++ flag
  | invalidValue flag value => "Invalid value for " ++ flag ++ ": " ++ value

structure Settings where
  infos : List String := []
  suppressCodes : List String := []
  outputErrors : Option String := none
  expectFailure : Bool := false
  expectWarnings : Bool := false
  exportTestFunctions : Bool := false
  disablePropertyRenaming : Bool := false
  devBuild : Bool := false
  roots : List String := []
  jsOutputFile : Option String := none
  checksOnly : Bool := false
  createSourceMap : Option String := none
  passThrough : List String := []
  deriving DecidableEq, Repr

inductive ValueFlag
  | info | outputErrors | suppress
  deriving DecidableEq, Repr

inductive SwitchFlag
  | expectFailure | expectWarnings | exportTestFunctions | disablePropertyRenaming | devBuild
  deriving DecidableEq, Repr

inductive ObservedFlag
  | jsModuleRoot | jsOutputFile | createSourceMap
  deriving DecidableEq, Repr

inductive Flag
  | value (f : ValueFlag)
  | switch (f : SwitchFlag)
  | observed (f : ObservedFlag)
  | checksOnly
  | other
  deriving DecidableEq, Repr

def Flag.ofString : String → Flag
  | "--info" => .value .info
  | "--output_errors" => .value .outputErrors
  | "--suppress" => .value .suppress
  | "--expect_failure" => .switch .expectFailure
  | "--expect_warnings" => .switch .expectWarnings
  | "--export_test_functions" => .switch .exportTestFunctions
  | "--disable_property_renaming" => .switch .disablePropertyRenaming
  | "--experimental_dev_build" => .switch .devBuild
  | "--js_module_root" => .observed .jsModuleRoot
  | "--js_output_file" => .observed .jsOutputFile
  | "--create_source_map" => .observed .createSourceMap
  | "--checks_only" => .checksOnly
  | _ => .other

/-- An argument at a flag position, with the argument that follows it. -/
structure Occurrence where
  text : String
  flagText : String
  inlineValue : Option String
  next : Option String
  deriving DecidableEq, Repr

namespace Occurrence

def ofArgument (text : String) (next : Option String) : Occurrence :=
  ⟨text, (Argument.split text).1, (Argument.split text).2, next⟩

def flag (o : Occurrence) : Flag := Flag.ofString o.flagText

def takesNext (o : Occurrence) : Bool :=
  match o.flag with
  | .value _ => o.inlineValue.isNone
  | _ => false

/-- The value inside the argument, else the argument after it. -/
def value? (o : Occurrence) : Option String := o.inlineValue.or o.next

def requireValue (o : Occurrence) : Except SettingsError String :=
  match o.value? with
  | some value => .ok value
  | none => .error (.missingValue o.flagText)

/-- A bare switch is on; an inline value has to spell out `true` or `false`. -/
def switchValue (o : Occurrence) : Except SettingsError Bool :=
  match o.inlineValue with
  | none => .ok true
  | some "true" => .ok true
  | some "false" => .ok false
  | some value => .error (.invalidValue o.flagText value)

end Occurrence

def occurrences : List String → List Occurrence
  | [] => []
  | [text] => [Occurrence.ofArgument text none]
  | text :: next :: rest =>
    let o := Occurrence.ofArgument text (some next)
    if o.takesNext then o :: occurrences rest else o :: occurrences (next :: rest)

namespace Settings

def setValue (s : Settings) (value : String) : ValueFlag → Settings
  | .info => { s with infos := s.infos ++ [value] }
  | .outputErrors => { s with outputErrors := some value }
  | .suppress => { s with suppressCodes := s.suppressCodes ++ [value] }

def setSwitch (s : Settings) (on : Bool) : SwitchFlag → Settings
  | .expectFailure => { s with expectFailure := on }
  | .expectWarnings => { s with expectWarnings := on }
  | .exportTestFunctions => { s with exportTestFunctions := on }
  | .disablePropertyRenaming => { s with disablePropertyRenaming := on }
  | .devBuild => { s with devBuild := on }

def setObserved (s : Settings) (value : Option String) : ObservedFlag → Settings
  | .jsModuleRoot => { s with roots := s.roots ++ value.toList }
  | .jsOutputFile => { s with jsOutputFile := value.or s.jsOutputFile }
  | .createSourceMap => { s with createSourceMap := value.or s.createSourceMap }

def pass (s : Settings) (text : String) : Settings :=
  { s with passThrough := s.passThrough ++ [text] }

def apply (s : Settings) (o : Occurrence) : Except SettingsError Settings :=
  match o.flag with
  | .value f => do
    let value ← o.requireValue
    pure (s.setValue value f)
  | .switch f => do
    let on ← o.switchValue
    pure (s.setSwitch on f)
  | .observed f => .ok ((s.setObserved o.value? f).pass o.text)
  | .checksOnly => do
    let on ← o.switchValue
    pure ({ s with checksOnly := on }.pass o.text)
  | .other => .ok (s.pass o.text)

def ofArguments (arguments : List String) : Except SettingsError Settings :=
  (occurrences arguments).foldlM apply {}

def impliedFlags (s : Settings) : List String :=
  (if s.exportTestFunctions then ["--export_test_functions"] else []) ++
    (if s.disablePropertyRenaming then ["--property_renaming=OFF"] else []) ++
    (if s.devBuild then ["--compilation_level=WHITESPACE_ONLY"] else [])

def compilerArguments (s : Settings) : List String := s.passThrough ++ s.impliedFlags

end Settings

end DiagnosticSieve
