import DiagnosticSieve.Proofs.FlagPositions

namespace DiagnosticSieve

namespace ValueFlag

def name : ValueFlag → String
  | info => "--info"
  | outputErrors => "--output_errors"
  | suppress => "--suppress"

theorem split_name (f : ValueFlag) : Argument.split f.name = (f.name, none) := by
  cases f <;> decide

end ValueFlag

namespace SwitchFlag

def name : SwitchFlag → String
  | expectFailure => "--expect_failure"
  | expectWarnings => "--expect_warnings"
  | exportTestFunctions => "--export_test_functions"
  | disablePropertyRenaming => "--disable_property_renaming"
  | devBuild => "--experimental_dev_build"

end SwitchFlag

namespace ObservedFlag

def name : ObservedFlag → String
  | jsModuleRoot => "--js_module_root"
  | jsOutputFile => "--js_output_file"
  | createSourceMap => "--create_source_map"

theorem split_name (f : ObservedFlag) : Argument.split f.name = (f.name, none) := by
  cases f <;> decide

end ObservedFlag

namespace Flag

def name? : Flag → Option String
  | value f => some f.name
  | switch f => some f.name
  | observed f => some f.name
  | checksOnly => some "--checks_only"
  | other => none

theorem ofString_eq_iff {flag : Flag} {name : String} (named : flag.name? = some name)
    (text : String) : ofString text = flag ↔ text = name := by
  constructor
  · intro read
    unfold ofString at read
    split at read <;> subst read <;> cases named <;> rfl
  · intro same
    subst same
    cases flag with
    | value f => cases f <;> cases named <;> rfl
    | switch f => cases f <;> cases named <;> rfl
    | observed f => cases f <;> cases named <;> rfl
    | checksOnly => cases named; rfl
    | other => cases named

end Flag

def booleanFlags : List String :=
  ["--expect_failure", "--expect_warnings", "--export_test_functions", "--disable_property_renaming",
    "--experimental_dev_build", "--checks_only"]

theorem mem_booleanFlags_iff (text : String) :
    text ∈ booleanFlags ↔
      (∃ f, Flag.ofString text = .switch f) ∨ Flag.ofString text = .checksOnly := by
  constructor
  · intro member
    simp only [booleanFlags, List.mem_cons, List.not_mem_nil, or_false] at member
    rcases member with rfl | rfl | rfl | rfl | rfl | rfl
    · exact .inl ⟨.expectFailure, rfl⟩
    · exact .inl ⟨.expectWarnings, rfl⟩
    · exact .inl ⟨.exportTestFunctions, rfl⟩
    · exact .inl ⟨.disablePropertyRenaming, rfl⟩
    · exact .inl ⟨.devBuild, rfl⟩
    · exact .inr rfl
  · intro named
    rcases named with ⟨f, switch⟩ | checks
    · rw [(Flag.ofString_eq_iff rfl text).mp switch]
      cases f <;> decide
    · rw [(Flag.ofString_eq_iff rfl text).mp checks]
      decide

theorem mem_separateFlags_iff (text : String) :
    text ∈ separateFlags ↔ ∃ f, Flag.ofString text = .value f := by
  rw [← List.contains_iff_mem, ← Flag.takesValue_ofString]
  cases Flag.ofString text <;> simp [Flag.takesValue]

def Occurrence.given? (flag : Flag) (o : Occurrence) : Option String :=
  if o.flag = flag then o.value? else none

/-- The values that arguments give to a flag, in order: those inside its occurrences at flag positions,
and else the arguments behind them. -/
def namedValues (name : String) (arguments : List String) : List String :=
  (flagged arguments).filterMap fun x =>
    if Argument.flagPart x.1 = name then (Argument.split x.1).2.or arguments[x.2 + 1]? else none

theorem flag_ofArgument_eq_iff {flag : Flag} {name : String} (named : flag.name? = some name)
    (text : String) (next : Option String) :
    (Occurrence.ofArgument text next).flag = flag ↔ Argument.flagPart text = name := by
  rw [Occurrence.flag, Occurrence.ofArgument, Argument.split_fst, Flag.ofString_eq_iff named]

theorem filterMap_given? {flag : Flag} {name : String} (named : flag.name? = some name)
    (arguments : List String) :
    (occurrences arguments).filterMap (Occurrence.given? flag) = namedValues name arguments := by
  rw [occurrences_eq, List.filterMap_map, namedValues]
  congr
  funext x
  simp only [Function.comp_apply, Occurrence.given?, flag_ofArgument_eq_iff named]
  rfl

end DiagnosticSieve
