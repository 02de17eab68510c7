import DiagnosticSieve.Proofs.SettingsFaults

namespace DiagnosticSieve

namespace Occurrence

def isOn (o : Occurrence) : Bool := o.inlineValue.all (· = "true")

theorem switchValue_eq_ok (o : Occurrence) {on : Bool} (given : o.switchValue = .ok on) :
    on = o.isOn := by
  rw [switchValue] at given
  rw [isOn]
  split at given
  · next bare =>
    cases given
    rw [bare]
    rfl
  · next value =>
    cases given
    rw [value]
    rfl
  · next value =>
    cases given
    rw [value]
    rfl
  · cases given

def turns? (flag : Flag) (o : Occurrence) : Option Bool :=
  if o.flag = flag then some o.isOn else none

end Occurrence

namespace Settings

def isOn (s : Settings) : SwitchFlag → Bool
  | .expectFailure => s.expectFailure
  | .expectWarnings => s.expectWarnings
  | .exportTestFunctions => s.exportTestFunctions
  | .disablePropertyRenaming => s.disablePropertyRenaming
  | .devBuild => s.devBuild

/-- What settings hold for the runner, in terms of the occurrences behind the settings that they started
from. -/
structure Obeys (s u : Settings) (os : List Occurrence) : Prop where
  infos : u.infos = s.infos ++ os.filterMap (Occurrence.given? (.value .info))
  suppressCodes : u.suppressCodes =
    s.suppressCodes ++ os.filterMap (Occurrence.given? (.value .suppress))
  outputErrors : u.outputErrors =
    (os.filterMap (Occurrence.given? (.value .outputErrors))).getLast?.or s.outputErrors
  switches : ∀ f, u.isOn f = (os.filterMap (Occurrence.turns? (.switch f))).getLast?.getD (s.isOn f)
  checksOnly : u.checksOnly = (os.filterMap (Occurrence.turns? .checksOnly)).getLast?.getD s.checksOnly

theorem isOn_setSwitch (s : Settings) (on : Bool) (f g : SwitchFlag) :
    (s.setSwitch on f).isOn g = if f = g then on else s.isOn g := by
  cases f <;> cases g <;> rfl

theorem Step.obeys {s t : Settings} {o : Occurrence} (step : s.Step o t) : Obeys s t [o] := by
  cases step with
  | value f flag value given =>
    cases f <;> constructor <;> simp [setValue, Occurrence.given?, Occurrence.turns?, flag, given, isOn]
  | switch f flag on given =>
    rw [o.switchValue_eq_ok given]
    constructor
    case switches =>
      intro g
      rw [isOn_setSwitch]
      by_cases same : f = g <;> simp [Occurrence.turns?, flag, same]
    all_goals cases f <;> simp [setSwitch, Occurrence.given?, Occurrence.turns?, flag]
  | observed f flag =>
    cases f <;> constructor <;>
      simp [setObserved, pass, Occurrence.given?, Occurrence.turns?, flag, isOn]
  | checksOnly flag on given =>
    rw [o.switchValue_eq_ok given]
    constructor <;> simp [pass, Occurrence.given?, Occurrence.turns?, flag, isOn]
  | other flag =>
    constructor <;> simp [pass, Occurrence.given?, Occurrence.turns?, flag, isOn]

theorem Obeys.append {s t u : Settings} {front back : List Occurrence} (first : Obeys s t front)
    (rest : Obeys t u back) : Obeys s u (front ++ back) := by
  constructor
  · rw [rest.infos, first.infos, List.filterMap_append, List.append_assoc]
  · rw [rest.suppressCodes, first.suppressCodes, List.filterMap_append, List.append_assoc]
  · rw [rest.outputErrors, first.outputErrors, List.filterMap_append, List.getLast?_append,
      Option.or_assoc]
  · intro f
    rw [rest.switches, first.switches, List.filterMap_append, List.getLast?_append, Option.getD_or]
  · rw [rest.checksOnly, first.checksOnly, List.filterMap_append, List.getLast?_append, Option.getD_or]

theorem Steps.obeys {s u : Settings} {os : List Occurrence} (steps : s.Steps os u) : Obeys s u os := by
  induction steps with
  | nil => constructor <;> simp
  | cons first _ ih => exact first.obeys.append ih

end Settings

def namedSwitches (name : String) (arguments : List String) : List Bool :=
  (flagged arguments).filterMap fun x =>
    if Argument.flagPart x.1 = name then some ((Argument.split x.1).2.all (· = "true")) else none

theorem filterMap_turns? {flag : Flag} {name : String} (named : flag.name? = some name)
    (arguments : List String) :
    (occurrences arguments).filterMap (Occurrence.turns? flag) = namedSwitches name arguments := by
  rw [occurrences_eq, List.filterMap_map, namedSwitches]
  congr
  funext x
  simp only [Function.comp_apply, Occurrence.turns?, flag_ofArgument_eq_iff named]
  rfl

/-- What settings hold for the runner: all values of some flags, the last one of others, and whether the
last occurrence of a boolean flag turns it on. -/
structure Settings.Follows (s : Settings) (arguments : List String) : Prop where
  infos : s.infos = namedValues "--info" arguments
  suppressCodes : s.suppressCodes = namedValues "--suppress" arguments
  outputErrors : s.outputErrors = (namedValues "--output_errors" arguments).getLast?
  expectFailure : s.expectFailure = (namedSwitches "--expect_failure" arguments).getLast?.getD false
  expectWarnings : s.expectWarnings = (namedSwitches "--expect_warnings" arguments).getLast?.getD false
  exportTestFunctions :
    s.exportTestFunctions = (namedSwitches "--export_test_functions" arguments).getLast?.getD false
  disablePropertyRenaming : s.disablePropertyRenaming =
    (namedSwitches "--disable_property_renaming" arguments).getLast?.getD false
  devBuild : s.devBuild = (namedSwitches "--experimental_dev_build" arguments).getLast?.getD false
  checksOnly : s.checksOnly = (namedSwitches "--checks_only" arguments).getLast?.getD false

theorem Settings.follows {arguments : List String} {s : Settings}
    (accepted : ofArguments arguments = .ok s) : s.Follows arguments := by
  have obeys := ((ofArguments_eq_ok_iff arguments s).mp accepted).obeys
  have switch (f : SwitchFlag) :
      s.isOn f = (namedSwitches f.name arguments).getLast?.getD (({} : Settings).isOn f) := by
    have named : (Flag.switch f).name? = some f.name := rfl
    rw [obeys.switches, filterMap_turns? named]
  constructor
  · rw [obeys.infos, filterMap_given? rfl]
    rfl
  · rw [obeys.suppressCodes, filterMap_given? rfl]
    rfl
  · rw [obeys.outputErrors, filterMap_given? rfl]
    exact Option.or_none
  · exact switch .expectFailure
  · exact switch .expectWarnings
  · exact switch .exportTestFunctions
  · exact switch .disablePropertyRenaming
  · exact switch .devBuild
  · rw [obeys.checksOnly, filterMap_turns? rfl]

/-- An argument list is refused exactly if an argument at a flag position is out of order: a boolean flag
with a value other than `true` and `false`, or the last argument if that is a bare `--info`,
`--output_errors` or `--suppress`. The error is that of the first such argument and tells its flag, and
its value if it has one. If there is no such argument, the settings follow the occurrences at flag
positions. -/
theorem settings_refused_at_first_fault (arguments : List String) :
    ((∃ e, Settings.ofArguments arguments = .error e) ↔
      ∃ i, atFlagPosition arguments i = true ∧ ∃ e, FaultAt arguments i e) ∧
    (∀ e, Settings.ofArguments arguments = .error e ↔ FirstFault arguments e) ∧
    (∀ i e, FaultAt arguments i e → ∃ text, arguments[i]? = some text ∧
      (e.message = "Missing value for " ++ text ∨
        ∃ value, (Argument.split text).2 = some value ∧
          e.message = "Invalid value for " ++ Argument.flagPart text ++ ": " ++ value)) ∧
    ∀ s, Settings.ofArguments arguments = .ok s → s.Follows arguments := by
  refine ⟨exists_ofArguments_eq_error_iff arguments, ofArguments_eq_error_iff arguments, ?_, ?_⟩
  · intro i e fault
    exact fault.message_eq
  · intro s accepted
    exact Settings.follows accepted

/-- A flag swallows a faulty one, and later occurrences override earlier ones. -/
def overridingArguments : List String :=
  ["--expect_failure=false", "--info", "--checks_only=maybe", "--checks_only", "--expect_failure",
    "--checks_only=false", "--info=a=b", "--output_errors", "log", "--output_errors="]

theorem overridingArguments_settle :
    (∃ s, Settings.ofArguments overridingArguments = .ok s ∧ s.infos = ["--checks_only=maybe", "a=b"] ∧
      s.expectFailure = true ∧ s.checksOnly = false ∧ s.outputErrors = some "") ∧
    FirstFault (overridingArguments ++ ["--checks_only=maybe", "--info"])
      (.invalidValue "--checks_only" "maybe") := by
  obtain ⟨_, _, _, follows⟩ := settings_refused_at_first_fault overridingArguments
  obtain ⟨_, refused, _⟩ :=
    settings_refused_at_first_fault (overridingArguments ++ ["--checks_only=maybe", "--info"])
  constructor
  · obtain ⟨s, accepted⟩ : ∃ s, Settings.ofArguments overridingArguments = .ok s := ⟨_, rfl⟩
    have held := follows s accepted
    refine ⟨s, accepted, ?_, ?_, ?_, ?_⟩
    · rw [held.infos]
      decide
    · rw [held.expectFailure]
      decide
    · rw [held.checksOnly]
      decide
    · rw [held.outputErrors]
      decide
  · exact (refused _).mp rfl

end DiagnosticSieve
