import DiagnosticSieve.Compiler.Program
import DiagnosticSieve.Proofs.AttemptResults
import DiagnosticSieve.Proofs.RunStages
import DiagnosticSieve.Proofs.SieveReports

namespace DiagnosticSieve

theorem ExitStatus.value_ne_zero_iff (status : ExitStatus) :
    status.value ≠ 0 ↔ status = .killed ∨ ∃ n, n ≠ 0 ∧ status = .code n := by
  cases status with
  | code n => simp [value]
  | killed => simp [value]

namespace Compiled

theorem exitCode_eq_zero_iff (c : Compiled) (s : Settings) :
    (c.outcome s).decide.exitCode = 0 ↔
      ((c.status ≠ 0 ∨ c.sieve.hasErrors = true) ↔ s.expectFailure = true) := by
  have failed : (c.outcome s).failed = true ↔ c.status ≠ 0 ∨ c.sieve.hasErrors = true := by
    rw [Outcome.failed, Bool.or_eq_true]
    exact or_congr_left decide_eq_true_iff
  have zero : (c.outcome s).decide.exitCode = 0 ↔ (c.outcome s).failed = s.expectFailure := by
    simp [Decision.exitCode, Outcome.decide, outcome, Outcome.ofSettings]
  rw [zero, ← failed, Bool.eq_iff_iff]

end Compiled

theorem Decision.exitCode_eq_zero_or_one (decision : Decision) :
    decision.exitCode = 0 ∨ decision.exitCode = 1 := by
  cases succeeded : decision.succeeded <;> simp [exitCode, succeeded]

theorem Settings.freshSieve_hasErrors_iff (s : Settings) (policy : Policy) (ds : List Diagnostic) :
    ((s.freshSieve policy).reportAll ds).hasErrors = true ↔
      ∃ d ∈ ds, d.severity = .error ∧ ¬ policy.Silences s.roots d := by
  have counted : ((s.freshSieve policy).reportAll ds).hasErrors = true ↔
      ∃ d ∈ (s.freshSieve policy).surfacing ds, d.severity = .error := by
    rw [Sieve.hasErrors, Sieve.reportAll_eq]
    simp [freshSieve, List.countP_pos_iff]
  rw [counted]
  constructor
  · intro present
    rcases present with ⟨d, member, severe⟩
    obtain ⟨reported, audible⟩ := (Sieve.mem_surfacing_iff ..).mp member
    exact ⟨d, reported, severe, audible⟩
  · intro present
    rcases present with ⟨d, reported, severe, audible⟩
    exact ⟨d, (Sieve.mem_surfacing_iff ..).mpr ⟨reported, audible⟩, severe⟩

namespace Program

def errors (x : Execution) : List Diagnostic :=
  (transcript x).diagnostics.filter fun d => d.severity = .error

/-- Whether an execution fails the build: it reports an error that is not suppressed, or no error at
all and ends by a signal or with a code other than zero. -/
def Fails (policy : Policy) (roots : List String) (x : Execution) : Prop :=
  (∃ d ∈ errors x, ¬ policy.Silences roots d) ∨
    errors x = [] ∧ (x.status = .killed ∨ ∃ n, n ≠ 0 ∧ x.status = .code n)

/-- What is left of the status of an execution where its own errors explain it. -/
def residualStatus (x : Execution) : Int :=
  if explained (transcript x) x.status.value then 0 else x.status.value

theorem hasError_iff (x : Execution) : (transcript x).hasError = true ↔ errors x ≠ [] := by
  simp [Transcript.hasError, errors, List.filter_eq_nil_iff]

theorem residualStatus_ne_zero_iff (x : Execution) :
    residualStatus x ≠ 0 ↔
      errors x = [] ∧ (x.status = .killed ∨ ∃ n, n ≠ 0 ∧ x.status = .code n) := by
  rw [← ExitStatus.value_ne_zero_iff]
  by_cases silent : errors x = []
  · have unexplained : (transcript x).hasError = false := by
      rw [Bool.eq_false_iff, ne_eq, hasError_iff]
      exact not_not_intro silent
    simp [residualStatus, explained, unexplained, silent]
  · have reported : (transcript x).hasError = true := (hasError_iff x).mpr silent
    by_cases ended : x.status.value = 0
    · simp [residualStatus, ended]
    · simp [residualStatus, explained, reported, silent, ended]

theorem fails_iff (s : Settings) (policy : Policy) (x : Execution) :
    Fails policy s.roots x ↔
      residualStatus x ≠ 0 ∨
        ((s.freshSieve policy).reportAll (transcript x).diagnostics).hasErrors = true := by
  rw [residualStatus_ne_zero_iff, s.freshSieve_hasErrors_iff, Fails, or_comm]
  simp only [errors, List.mem_filter, decide_eq_true_eq, and_assoc]

variable (program : Program) (executable : String) (arguments : List String) (files : FileTree)

def startEvent : Event := .record (startRecord executable arguments)

variable (options : Settings)

theorem compiler_of_startable
    (startable : checkStart files executable (arguments ++ options.impliedFlags) = .ok ()) :
    program.compiler executable options arguments files =
      compilation (arguments ++ options.impliedFlags)
        (startEvent executable (arguments ++ options.impliedFlags))
        (program (arguments ++ options.impliedFlags) files) := by
  simp only [compiler, startable]
  rfl

theorem compiler_of_unstartable (reason : OsError)
    (unstartable :
      checkStart files executable (arguments ++ options.impliedFlags) = .error reason) :
    program.compiler executable options arguments files =
      { opening := [startEvent executable (arguments ++ options.impliedFlags)], files,
        status := .error (startError executable reason) } := by
  simp only [compiler, unstartable]
  rfl

theorem ofSettings_of_started (s : Settings) (sieve : Sieve) (compiles : ¬ s.Skips)
    (compiled : Compiled)
    (done : (Compiled.ofSettings s (program.compiler executable options) sieve files).result =
      .ok compiled) :
    let x := program (s.passThrough ++ options.impliedFlags) files
    compiled = ⟨sieve.reportAll (transcript x).diagnostics, residualStatus x⟩ ∧
      (Compiled.ofSettings s (program.compiler executable options) sieve files).compilerArguments =
        some (s.passThrough ++ options.impliedFlags) := by
  rw [Compiled.ofSettings_of_compiles s sieve files _ compiles] at done ⊢
  cases start : checkStart files executable (s.passThrough ++ options.impliedFlags) with
  | error reason =>
    rw [compiler_of_unstartable program executable s.passThrough files options reason start] at done
    cases done
  | ok started =>
    rw [compiler_of_startable program executable s.passThrough files options start] at done ⊢
    cases done
    exact ⟨rfl, rfl⟩

end Program

/-- The exit code of a run that is carried out. The program is started unless it is only asked for its
help or version, and the code is zero exactly if it fails where that is expected and nowhere else. -/
theorem run_exitCode_of_program (program : Program) (executable : String) (options s : Settings)
    (colorize : Bool) (files : FileTree) (code : Nat)
    (finished : (run s (program.compiler executable options) colorize files).result = .ok code) :
    ∃ policy, (s.policy files).result = .ok policy ∧
      (s.Skips →
        (run s (program.compiler executable options) colorize files).compilerArguments = none) ∧
      (¬ s.Skips →
        (run s (program.compiler executable options) colorize files).compilerArguments =
          some (s.passThrough ++ options.impliedFlags)) ∧
      (code = 0 ↔
        ((¬ s.Skips ∧ Program.Fails policy s.roots
            (program (s.passThrough ++ options.impliedFlags) files)) ↔
          s.expectFailure = true)) ∧
      (code = 0 ∨ code = 1) := by
  obtain ⟨policy, compiled, accepted, done, concluded⟩ := (run_eq_ok_iff ..).mp finished
  have decided := compiled.conclude_code s colorize _ code concluded
  have arguments := run_compilerArguments s (program.compiler executable options) colorize files
    policy accepted
  have binary : code = 0 ∨ code = 1 := by
    rw [decided]
    exact Decision.exitCode_eq_zero_or_one _
  refine ⟨policy, accepted, ?_, ?_, ?_, binary⟩
  · intro skips
    rw [arguments, Compiled.ofSettings_of_skips s _ files _ skips]
    rfl
  · intro compiles
    rw [arguments]
    exact (Program.ofSettings_of_started program executable files options s _ compiles compiled
      done).2
  rw [decided, Compiled.exitCode_eq_zero_iff]
  by_cases skips : s.Skips
  · rw [Compiled.ofSettings_of_skips s _ files _ skips] at done
    cases done
    have spotless : (s.freshSieve policy).hasErrors = false := rfl
    simp [skips, spotless]
  · obtain ⟨rfl, _⟩ := Program.ofSettings_of_started program executable files options s _ skips
      compiled done
    rw [Program.fails_iff]
    simp only [skips, not_false_eq_true, true_and]

def deadCodeProgram : Program := fun _ files =>
  { files
    errorOutput := "m.js:3: ERROR - [JSC_UNREACHABLE_CODE] unreachable code\n".toUTF8
    status := .code 1 }

def deadCodeSettings : Settings := { suppressCodes := ["uselessCode"] }

/-- The program stands in the second directory of the search path. -/
def deadCodeFiles : FileTree where
  entries :=
    [(["usr"], .directory), (["usr", "bin"], .directory),
     (["usr", "bin", "sh"], .file ByteArray.empty true)]
  searchPath := ["/usr/local/bin", "/usr/bin"]

theorem deadCode_succeeds :
    (run deadCodeSettings (deadCodeProgram.compiler "sh" deadCodeSettings) false
        deadCodeFiles).result = .ok 0 ∧
      (run deadCodeSettings (deadCodeProgram.compiler "sh" deadCodeSettings) false
        deadCodeFiles).compilerArguments = some [] ∧
      ∃ policy, (deadCodeSettings.policy deadCodeFiles).result = .ok policy ∧
        ¬ Program.Fails policy [] (deadCodeProgram [] deadCodeFiles) := by
  have finished : (run deadCodeSettings (deadCodeProgram.compiler "sh" deadCodeSettings) false
      deadCodeFiles).result = .ok 0 := by decide +kernel
  have compiles : ¬ deadCodeSettings.Skips := by simp [Settings.Skips, deadCodeSettings]
  obtain ⟨policy, accepted, _, started, verdict, _⟩ := run_exitCode_of_program deadCodeProgram "sh"
    deadCodeSettings deadCodeSettings false deadCodeFiles 0 finished
  refine ⟨finished, started compiles, policy, accepted, ?_⟩
  intro fails
  exact absurd ((verdict.mp rfl).mp ⟨compiles, fails⟩) (by decide)

end DiagnosticSieve
