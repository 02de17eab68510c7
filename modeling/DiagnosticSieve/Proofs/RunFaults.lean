import DiagnosticSieve.Compiler.Program
import DiagnosticSieve.Proofs.PolicyFaults
import DiagnosticSieve.Proofs.SessionTexts

namespace DiagnosticSieve

namespace Compilation

/-- What a compiler puts on the standard error stream itself. -/
def ownText (c : Compilation) : String := String.join ((c.opening ++ c.closing).map Event.shownText)

def Silent (c : Compilation) : Prop := ∀ event ∈ c.opening ++ c.closing, event.shownText = ""

theorem Silent.ownText {c : Compilation} (silent : c.Silent) : c.ownText = "" :=
  join_shownText_of_silent _ silent

end Compilation

theorem Compiled.errorText_ofCompilation (sieve : Sieve) (c : Compilation) (files : FileTree) :
    (Compiled.ofCompilation sieve c files).errorText = c.ownText := by
  have logged (r : LogRecord) : String.join ([.record r].map Event.shownText) = "" := rfl
  rw [Progress.errorText_eq, ofCompilation, Compilation.ownText]
  cases c.status <;> simp only [List.map_append, String.join_append, join_shownText_records, logged,
    String.append_empty]

/-- Programs write to a stream of their own, which is read and not shown. -/
theorem Program.compiler_silent (program : Program) (executable : String) (s : Settings)
    (arguments : List String) (files : FileTree) :
    (program.compiler executable s arguments files).Silent := by
  rw [compiler]
  intro event member
  cases start : checkStart files executable (arguments ++ s.impliedFlags) with
  | error reason =>
    simp only [start, List.append_nil, List.mem_singleton] at member
    rw [member]
    rfl
  | ok started =>
    simp only [start, compilation, List.mem_append, List.mem_cons, List.mem_map, List.not_mem_nil,
      or_false] at member
    rcases member with ((rfl | rfl | rfl) | ⟨r, _, rfl⟩) | closing
    · rfl
    · rfl
    · rfl
    · rfl
    · split at closing
      · rw [List.mem_singleton.mp closing]
        rfl
      · cases closing

variable (s : Settings) (compiler : Backend) (colorize : Bool) (files : FileTree)

theorem run_of_failed_compiler (policy : Policy) (accepted : (s.policy files).result = .ok policy)
    (runs : compiler.shouldRun s.passThrough = true) (cause : CompilerError)
    (failed : (compiler.compile s.passThrough files).status = .error cause) :
    let c := compiler.compile s.passThrough files
    let reported := (s.freshSieve policy).reportAll c.diagnostics
    run s compiler colorize files =
      ⟨s.policyEvents files ++ (c.opening ++ reported.records.map .record ++ c.closing), c.files,
        .error (.compiler cause)⟩ := by
  intro c reported
  have stage : Compiled.ofSettings s compiler (s.freshSieve policy) files =
      ⟨c.opening ++ reported.records.map .record ++ c.closing, c.files, .error (.compiler cause)⟩ := by
    rw [Compiled.ofSettings_of_runs s compiler _ files runs, Compiled.ofCompilation]
    simp only [failed, c, reported]
  rw [run_of_accepted s compiler colorize files policy accepted]
  have ended : (Compiled.ofSettings s compiler (s.freshSieve policy) files).result =
      .error (.compiler cause) := by rw [stage]
  simp only [Session.bind_apply_error _ _ files _ ended, stage]

theorem errorText_of_failed_compiler (policy : Policy)
    (accepted : (s.policy files).result = .ok policy)
    (runs : compiler.shouldRun s.passThrough = true) (cause : CompilerError)
    (failed : (compiler.compile s.passThrough files).status = .error cause) :
    (run s compiler colorize files).errorText =
      (compiler.compile s.passThrough files).ownText := by
  rw [run_of_failed_compiler s compiler colorize files policy accepted runs cause failed,
    Progress.errorText_eq, Compilation.ownText, Settings.policyEvents]
  simp only [List.map_append, String.join_append, join_shownText_records, String.append_empty,
    String.empty_append]

/-- Faults leave all else as it was. With any fault of the settings or the libraries, a run is the same
for every compiler, since none is started; it ends in the first fault, shows nothing and changes no
file. A compiler that is run and fails ends the run in its error; the run shows nothing of its own, and
the files are those that the compiler left. -/
theorem faults_leave_the_rest_intact :
    (s.Faulty files →
      ∃ e, s.FirstFault files e ∧ (run s compiler colorize files).result = .error e ∧
        (∀ other, run s other colorize files = run s compiler colorize files) ∧
        (run s compiler colorize files).compilerArguments = none ∧
        (run s compiler colorize files).errorText = "" ∧
        (run s compiler colorize files).files = files) ∧
    (¬ s.Faulty files → compiler.shouldRun s.passThrough = true → ∀ cause,
      (compiler.compile s.passThrough files).status = .error cause →
        (run s compiler colorize files).result = .error (.compiler cause) ∧
        (run s compiler colorize files).errorText =
          (compiler.compile s.passThrough files).ownText ∧
        ((compiler.compile s.passThrough files).Silent →
          (run s compiler colorize files).errorText = "") ∧
        (run s compiler colorize files).files = (compiler.compile s.passThrough files).files) := by
  constructor
  · intro faulty
    obtain ⟨e, first⟩ := (s.faulty_iff files).mp faulty
    have refused := (s.policy_eq_error_iff files e).mpr first
    have alone (other : Backend) := run_of_rejected s other colorize files e refused
    obtain ⟨silent, left⟩ := run_traces_of_rejected s compiler colorize files e refused
    refine ⟨e, first, ?_, ?_, ?_, silent, left⟩
    · rw [alone compiler]
    · intro other
      rw [alone other, alone compiler]
    · rw [alone compiler, Progress.compilerArguments_eq]
      exact findSome?_startArguments?_of_messages _ (s.policyEvents_messages files)
  · intro sound runs cause failed
    cases verdict : (s.policy files).result with
    | error e =>
      exact absurd ((s.faulty_iff files).mpr ⟨e, (s.policy_eq_error_iff files e).mp verdict⟩) sound
    | ok policy =>
      have shown := errorText_of_failed_compiler s compiler colorize files policy verdict runs
        cause failed
      have ended := run_of_failed_compiler s compiler colorize files policy verdict runs cause
        failed
      refine ⟨by rw [ended], shown, ?_, by rw [ended]⟩
      intro silent
      rw [shown, silent.ownText]

def obligedSettings : Settings := { outputErrors := some "errors", createSourceMap := some "map" }

def faultySettings : Settings :=
  { obligedSettings with infos := ["missing"], suppressCodes := ["nope"] }

def missingCompiler : Compiler := Program.compiler (fun _ files => { files }) "./c" {}

theorem obligedSettings_sound : ¬ obligedSettings.Faulty {} := by
  intro faulty
  rcases faulty with ⟨path, member, _⟩ | ⟨code, member, _⟩ | ⟨libraries, everywhere, e, loaded, failed⟩
  · cases member
  · cases member
  · cases loaded
    cases failed

theorem faultyRuns_leave_nothing :
    ((run faultySettings missingCompiler false {}).result =
        .error (.load (.unreadable "missing" .notFound)) ∧
      (run faultySettings missingCompiler false {}).errorText = "" ∧
      (run faultySettings missingCompiler false {}).files = {}) ∧
    (run obligedSettings missingCompiler false {}).result =
        .error (.compiler (Program.startError "./c" .notFound)) ∧
      (run obligedSettings missingCompiler false {}).errorText = "" ∧
      (run obligedSettings missingCompiler false {}).files = {} := by
  have fault : Library.Unloadable {} "missing" (.unreadable "missing" .notFound) :=
    .unreadable .notFound (by decide +kernel)
  have missing : (missingCompiler [] {}).status =
      .error (Program.startError "./c" .notFound) := by decide +kernel
  obtain ⟨_, _, _, _, _, silent, left⟩ :=
    (faults_leave_the_rest_intact faultySettings missingCompiler false {}).1
      (.inl ⟨"missing", List.mem_singleton_self _, _, fault⟩)
  obtain ⟨ended, _, quiet, stays⟩ :=
    (faults_leave_the_rest_intact obligedSettings missingCompiler false {}).2 obligedSettings_sound
      rfl _ missing
  exact ⟨⟨by decide +kernel, silent, left⟩, ended, quiet (Program.compiler_silent _ _ _ _ _), stays⟩

end DiagnosticSieve
