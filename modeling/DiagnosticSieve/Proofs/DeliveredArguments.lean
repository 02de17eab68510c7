import DiagnosticSieve.CommandLine
import DiagnosticSieve.Proofs.PassThrough
import DiagnosticSieve.Proofs.ProgramSearch
import DiagnosticSieve.Proofs.RunVerdict
import DiagnosticSieve.Proofs.RunnerOptions
import DiagnosticSieve.Proofs.SettingsFaults

namespace DiagnosticSieve

/-- Whether arguments hold nothing that is meant for the runner alone. -/
def ForCompiler (arguments : List String) : Prop :=
  ∀ text ∈ arguments, Argument.flagPart text ∉ runnerFlags

theorem mem_runnerFlags_of_separate (text : String) (separate : text ∈ separateFlags) :
    Argument.flagPart text ∈ runnerFlags := by
  simp only [separateFlags, List.mem_cons, List.not_mem_nil, or_false] at separate
  rcases separate with rfl | rfl | rfl <;> decide

section

variable {arguments : List String} (unclaimed : ForCompiler arguments)
include unclaimed

theorem ForCompiler.atFlagPosition (i : Nat) : atFlagPosition arguments i = true := by
  cases i with
  | zero => rfl
  | succ i =>
    have kept : arguments[i]?.any separateFlags.contains = false := by
      cases here : arguments[i]? with
      | none => rfl
      | some text =>
        have member := List.mem_of_getElem? here
        apply Bool.eq_false_iff.mpr
        intro separate
        exact unclaimed text member (mem_runnerFlags_of_separate text (by simpa using separate))
    rw [DiagnosticSieve.atFlagPosition, kept, Bool.and_false]
    rfl

theorem ForCompiler.conserved_eq : conserved arguments = arguments := by
  rw [conserved, List.filter_eq_self.mpr, List.zipIdx_map_fst]
  intro x member
  have inside : x.1 ∈ arguments := List.fst_mem_of_mem_zipIdx member
  simpa [unclaimed.atFlagPosition] using unclaimed x.1 inside

theorem ForCompiler.passes {o : Occurrence} (member : o ∈ occurrences arguments) :
    o.passes = true := by
  rw [occurrences_eq] at member
  obtain ⟨x, inside, rfl⟩ := List.mem_map.mp member
  have here := List.mem_of_getElem? ((mem_flagged_iff arguments x.1 x.2).mp inside).1
  simpa [Occurrence.passes_ofArgument] using unclaimed x.1 here

theorem ForCompiler.exists_faultAt_iff :
    (∃ i, DiagnosticSieve.atFlagPosition arguments i = true ∧ ∃ e, FaultAt arguments i e) ↔
      ∃ text ∈ arguments, Argument.flagPart text = "--checks_only" ∧
        ∃ value, (Argument.split text).2 = some value ∧ value ≠ "true" ∧ value ≠ "false" := by
  constructor
  · intro ⟨i, _, e, fault⟩
    cases fault with
    | invalid text value here boolean inline mixed =>
      have member := List.mem_of_getElem? here
      have others : ∀ name ∈ booleanFlags, name ∈ runnerFlags ∨ name = "--checks_only" := by decide
      have checks := (others _ boolean).resolve_left (unclaimed text member)
      exact ⟨text, member, checks, value, inline, mixed⟩
    | missing text here bare last =>
      have claimed := mem_runnerFlags_of_separate text bare
      exact absurd claimed (unclaimed text (List.mem_of_getElem? here))
  · intro ⟨text, member, checks, value, inline, mixed⟩
    obtain ⟨i, inside, rfl⟩ := List.getElem_of_mem member
    refine ⟨i, unclaimed.atFlagPosition i, _, .invalid _ value (List.getElem?_eq_getElem inside) ?_ inline
      mixed⟩
    rw [checks]
    decide

theorem ForCompiler.settings_eq {s : Settings} (accepted : Settings.ofArguments arguments = .ok s) :
    s = { roots := s.roots
          jsOutputFile := s.jsOutputFile
          checksOnly := s.checksOnly
          createSourceMap := s.createSourceMap
          passThrough := arguments } := by
  have steps := (Settings.ofArguments_eq_ok_iff arguments s).mp accepted
  have through : s.passThrough = arguments :=
    (Settings.passThrough_eq accepted).trans unclaimed.conserved_eq
  have observed := steps.observing_eq fun o member => unclaimed.passes member
  rw [Settings.observing, through] at observed
  exact observed.symm

end

theorem Settings.exists_policy_of_bare (s : Settings) (files : FileTree) (infos : s.infos = [])
    (codes : s.suppressCodes = []) : ∃ policy, (s.policy files).result = .ok policy := by
  rw [Settings.policy, Settings.everywhere, infos, codes]
  exact ⟨_, rfl⟩

theorem Compiled.compilerArguments_of_messages (sieve : Sieve) (c : Compilation) (files : FileTree)
    (opening : ∀ event ∈ c.opening, event.IsMessage) (closing : ∀ event ∈ c.closing, event.IsMessage) :
    (ofCompilation sieve c files).compilerArguments = none := by
  have records : ∀ event ∈ (sieve.reportAll c.diagnostics).records.map Event.record,
      event.IsMessage := by
    intro event member
    obtain ⟨r, _, rfl⟩ := List.mem_map.mp member
    trivial
  have messages := List.forall_mem_append.mpr ⟨List.forall_mem_append.mpr ⟨opening, records⟩, closing⟩
  rw [Progress.compilerArguments_eq, ofCompilation]
  cases c.status with
  | error e => exact findSome?_startArguments?_of_messages _ messages
  | ok status =>
    refine findSome?_startArguments?_of_messages _ (List.forall_mem_append.mpr ⟨messages, ?_⟩)
    exact List.forall_mem_singleton.mpr trivial

theorem Program.started_iff (program : Program) (executable : String) (options s : Settings)
    (sieve : Sieve) (files : FileTree) (arguments : List String) :
    (Compiled.ofSettings s (program.compiler executable options) sieve files).compilerArguments =
        some arguments ↔
      arguments = s.passThrough ++ options.impliedFlags ∧ ¬ s.Skips ∧
        checkStart files executable (s.passThrough ++ options.impliedFlags) = .ok () := by
  by_cases skips : s.Skips
  · rw [Compiled.ofSettings_of_skips s sieve files _ skips]
    simp [skips, Progress.compilerArguments]
  rw [Compiled.ofSettings_of_compiles s sieve files _ skips]
  cases start : checkStart files executable (s.passThrough ++ options.impliedFlags) with
  | error reason =>
    rw [compiler_of_unstartable program executable s.passThrough files options reason start,
      Compiled.compilerArguments_of_messages _ _ _ (List.forall_mem_singleton.mpr trivial) (by simp)]
    simp
  | ok started =>
    rw [compiler_of_startable program executable s.passThrough files options start]
    have told : (Compiled.ofCompilation sieve (compilation (s.passThrough ++ options.impliedFlags)
        (startEvent executable (s.passThrough ++ options.impliedFlags))
        (program (s.passThrough ++ options.impliedFlags) files)) files).compilerArguments =
          some (s.passThrough ++ options.impliedFlags) := rfl
    rw [told, Option.some.injEq]
    simp [skips, eq_comm]

def ChecksSpelledOut (arguments : List String) : Prop :=
  ∀ text ∈ arguments, Argument.flagPart text = "--checks_only" →
    (Argument.split text).2 ∈ [none, some "true", some "false"]

theorem ForCompiler.exists_ofArguments_iff {arguments : List String}
    (unclaimed : ForCompiler arguments) :
    (∃ s, Settings.ofArguments arguments = .ok s) ↔ ChecksSpelledOut arguments := by
  have refused := exists_ofArguments_eq_error_iff arguments
  rw [unclaimed.exists_faultAt_iff] at refused
  have mixed (value? : Option String) : value? ∈ [none, some "true", some "false"] ↔
      ¬ ∃ value, value? = some value ∧ value ≠ "true" ∧ value ≠ "false" := by
    cases value? with
    | none => simp
    | some value => by_cases yes : value = "true" <;> simp [yes]
  have accepted : (∃ s, Settings.ofArguments arguments = .ok s) ↔
      ¬ ∃ e, Settings.ofArguments arguments = .error e := by
    cases Settings.ofArguments arguments <;> simp
  rw [accepted, refused, ChecksSpelledOut]
  simp only [mixed, not_exists, not_and]

/-- An invocation whose arguments hold nothing for the runner starts the compiler with just these. -/
theorem Invocation.execute_started_iff (i : Invocation) (unclaimed : ForCompiler i.arguments)
    (program : Program) (files : FileTree) (arguments : List String) :
    (i.execute program files).compilerArguments = some arguments ↔
      arguments = i.arguments ∧ ChecksSpelledOut i.arguments ∧
        "--help" ∉ i.arguments ∧ "--version" ∉ i.arguments ∧
        Program.checkStart files i.compiler i.arguments = .ok () := by
  rw [← unclaimed.exists_ofArguments_iff]
  cases read : Settings.ofArguments i.arguments with
  | error e => simp [execute, read]
  | ok s =>
    have shape := unclaimed.settings_eq read
    have implied : s.impliedFlags = [] := by rw [shape]; rfl
    have through : s.passThrough = i.arguments := by rw [shape]
    obtain ⟨policy, accepted⟩ := s.exists_policy_of_bare files (by rw [shape]) (by rw [shape])
    have run := run_compilerArguments s (program.compiler i.compiler s) false files policy accepted
    have started := program.started_iff i.compiler s s (s.freshSieve policy) files arguments
    rw [implied, List.append_nil, through, ← run, Settings.Skips, not_or, through] at started
    simp only [execute, read, started]
    simp [and_assoc]

/-- Behind complete options of the runner and a separator, the arguments of a run are what was written, and
the options alone tell the rest of the invocation. The separator may be left out where the first argument
does not look like an option. If nothing in the arguments is meant for the runner, the compiler is started
with them as they are, wherever it is started: as long as every `--checks_only` says yes or no, neither
help nor the version is asked for, and the program can be started. -/
theorem arguments_delivered_verbatim (options : List RunnerOption) (path : String)
    (complete : Complete options path) (rest : List String) :
    Invocation.parse (options.flatMap RunnerOption.arguments ++ "--" :: rest) =
      .ok
        { limit := shownLevel ((options.flatMap RunnerOption.switches).count .verbose)
            ((options.flatMap RunnerOption.switches).count .quiet)
          compiler := path
          noColor := (options.flatMap RunnerOption.switches).contains .noColor
          arguments := rest } ∧
    ((∀ first, rest.head? = some first → ¬ "-".toList <+: first.toList) →
      Invocation.parse (options.flatMap RunnerOption.arguments ++ rest) =
        Invocation.parse (options.flatMap RunnerOption.arguments ++ "--" :: rest)) ∧
    ((∀ text ∈ rest, Argument.flagPart text ∉ runnerFlags) →
      ∀ line, Invocation.parse line =
          Invocation.parse (options.flatMap RunnerOption.arguments ++ "--" :: rest) →
        ∀ program files arguments,
          (commandLine line program files).compilerArguments = some arguments ↔
            arguments = rest ∧
              (∀ text ∈ rest, Argument.flagPart text = "--checks_only" →
                (Argument.split text).2 ∈ [none, some "true", some "false"]) ∧
              "--help" ∉ rest ∧ "--version" ∉ rest ∧
              Program.checkStart files path rest = .ok ()) := by
  refine ⟨complete.parse_separated rest, ?_, ?_⟩
  · intro plain
    rw [complete.parse_unseparated rest plain, complete.parse_separated rest]
  · intro unclaimed line read program files arguments
    rw [complete.parse_separated rest] at read
    rw [commandLine, read]
    exact (invocationOf options path rest).execute_started_iff unclaimed program files arguments

def chattyOptions : List RunnerOption :=
  [.letters .verbose [.verbose], .compilerBehind "sh", .noColor, .volume .verbose]

/-- Arguments that look like options, and like separators. -/
def lookalikes : List String :=
  ["", "--", "--compiler=d", "-vq", "--checks_only=false", "--js", "a b.js", "--no-color", "--"]

theorem lookalikes_delivered :
    Invocation.parse (chattyOptions.flatMap RunnerOption.arguments ++ lookalikes) =
        .ok ⟨some .trace, "sh", true, lookalikes⟩ ∧
      (commandLine (["-vv", "--compiler", "sh", "--no-color", "--verbose", "--"] ++ lookalikes)
        deadCodeProgram deadCodeFiles).compilerArguments = some lookalikes := by
  have complete : Complete chattyOptions "sh" := by
    constructor <;> decide
  obtain ⟨separated, unseparated, started⟩ :=
    arguments_delivered_verbatim chattyOptions "sh" complete lookalikes
  have first : ∀ first, lookalikes.head? = some first → ¬ "-".toList <+: first.toList := by
    intro first head
    cases head
    decide
  have startable : Program.checkStart deadCodeFiles "sh" lookalikes = .ok () := by
    rw [Program.checkStart_eq_ok_iff, FileTree.startable_eq_ok_iff]
    refine ⟨by decide, .inr ⟨by decide, by decide, ["/usr/local/bin"], "/usr/bin", [], rfl, ?_, ?_⟩⟩
    · exact List.forall_mem_singleton.mpr ⟨.notFound, by decide, by decide +kernel⟩
    · exact (FileTree.checkProgram_eq_ok_iff ..).mp (by decide +kernel)
  refine ⟨(unseparated first).trans separated, ?_⟩
  refine (started (by decide) _ rfl deadCodeProgram deadCodeFiles lookalikes).mpr ⟨rfl, ?_⟩
  exact ⟨by decide, by decide, by decide, startable⟩

end DiagnosticSieve
