import DiagnosticSieve.Proofs.LibraryOrder
import DiagnosticSieve.Proofs.RunStages
import DiagnosticSieve.Proofs.SieveReports

namespace DiagnosticSieve

/-- Errors of the settings and of the closure. They come before any compilation. -/
def RunError.IsEarly : RunError → Prop
  | load _ | unknownCode _ | ownership _ => True
  | compiler _ | write _ => False

def RejectedEarly (progress : Progress RunError Nat) : Prop :=
  ∃ e, progress.result = .error e ∧ e.IsEarly

namespace Settings

variable (s : Settings) (files : FileTree)

theorem policy_eq_ok_iff (policy : Policy) :
    (s.policy files).result = .ok policy ↔
      ∃ libraries kinds, (Library.loadAll files s.infos).result = .ok libraries ∧
        s.everywhere = .ok kinds ∧ (Policy.build libraries kinds).result = .ok policy := by
  rw [Settings.policy, Attempt.result_bind_eq_ok_iff]
  constructor
  · intro success
    rcases success with ⟨libraries, loaded, rest⟩
    obtain ⟨kinds, resolved, built⟩ := (Attempt.result_bind_eq_ok_iff ..).mp rest
    exact ⟨libraries, kinds, (Attempt.result_mapError_eq_ok_iff ..).mp loaded, resolved,
      (Attempt.result_mapError_eq_ok_iff ..).mp built⟩
  · intro stages
    rcases stages with ⟨libraries, kinds, loaded, resolved, built⟩
    refine ⟨libraries, (Attempt.result_mapError_eq_ok_iff ..).mpr loaded, ?_⟩
    exact (Attempt.result_bind_eq_ok_iff ..).mpr
      ⟨kinds, resolved, (Attempt.result_mapError_eq_ok_iff ..).mpr built⟩

theorem policy_error_isEarly (e : RunError) (refused : (s.policy files).result = .error e) :
    e.IsEarly := by
  rw [Settings.policy, Attempt.result_bind_eq_error_iff] at refused
  rcases refused with load | ⟨libraries, _, rest⟩
  · obtain ⟨cause, _, rfl⟩ := (Attempt.result_mapError_eq_error_iff ..).mp load
    trivial
  rcases (Attempt.result_bind_eq_error_iff ..).mp rest with code | ⟨kinds, _, build⟩
  · rw [Attempt.result_lift, everywhere] at code
    cases resolved : resolveCodes s.suppressCodes with
    | ok kinds =>
      rw [resolved] at code
      cases code
    | error unknown =>
      rw [resolved] at code
      cases code
      trivial
  · obtain ⟨cause, _, rfl⟩ := (Attempt.result_mapError_eq_error_iff ..).mp build
    trivial

end Settings

section

variable (s : Settings) (compiler : Backend) (colorize : Bool) (files : FileTree)

theorem rejectedEarly_iff :
    RejectedEarly (run s compiler colorize files) ↔ ∃ e, (s.policy files).result = .error e := by
  constructor
  · intro rejected
    rcases rejected with ⟨e, failed, early⟩
    cases accepted : (s.policy files).result with
    | error cause => exact ⟨cause, rfl⟩
    | ok policy =>
      rw [run_of_accepted s compiler colorize files policy accepted] at failed
      rcases (Session.result_bind_eq_error_iff ..).mp failed with stage | ⟨compiled, _, rest⟩
      · rw [Compiled.ofSettings_result] at stage
        cases status : (s.compilation compiler files).status with
        | ok value =>
          rw [status] at stage
          cases stage
        | error cause =>
          rw [status] at stage
          cases stage
          exact early.elim
      · obtain ⟨cause, _, rfl⟩ := (Session.result_mapError_eq_error_iff ..).mp rest
        exact early.elim
  · intro rejected
    rcases rejected with ⟨e, refused⟩
    rw [run_of_rejected s compiler colorize files e refused]
    exact ⟨e, rfl, s.policy_error_isEarly files e refused⟩

end

namespace Sieve

def under (s : Sieve) (policy : Policy) : Sieve := { s with policy }

@[simp] theorem under_policy (s : Sieve) (policy : Policy) : (s.under policy).policy = policy := rfl

@[simp] theorem moduleOf_under (s : Sieve) (policy : Policy) (d : Diagnostic) :
    (s.under policy).moduleOf d = s.moduleOf d := rfl

/-- Two sieves let the same diagnostics of a list through, in the same order, and count them alike. -/
structure SameReports (one other : Sieve) (ds : List Diagnostic) : Prop where
  surfacing : one.surfacing ds = other.surfacing ds
  surfaced : (one.reportAll ds).surfaced = (one.surfacing ds).map one.surface ∧
    (other.reportAll ds).surfaced = (other.surfacing ds).map other.surface
  errors : (one.reportAll ds).errors = (other.reportAll ds).errors
  warnings : (one.reportAll ds).warnings = (other.reportAll ds).warnings
  suppressed : (one.reportAll ds).suppressed = (other.reportAll ds).suppressed

variable (s : Sieve) {policy : Policy} (alike : s.policy.SameVerdicts policy)
include alike

theorem suppresses_under : (s.under policy).suppresses = s.suppresses := by
  funext d
  cases known : d.kind? with
  | none => simp only [suppresses, known, under_policy, moduleOf_under, alike.isLegacy]
  | some k => simp only [suppresses, known, under_policy, moduleOf_under, alike.suppresses]

theorem surfacing_under (ds : List Diagnostic) : (s.under policy).surfacing ds = s.surfacing ds := by
  rw [surfacing, surfacing, suppresses_under s alike]

theorem holding_under (ds : List Diagnostic) : (s.under policy).holding ds = s.holding ds := by
  rw [holding, holding, suppresses_under s alike]

theorem sameReports_under (ds : List Diagnostic) (empty : s.surfaced = []) :
    s.SameReports (s.under policy) ds := by
  have through := surfacing_under s alike ds
  have back := holding_under s alike ds
  have clear : (s.under policy).surfaced = [] := empty
  constructor
  · exact through.symm
  · rw [reportAll_eq, reportAll_eq, empty, clear]
    exact ⟨List.nil_append _, List.nil_append _⟩
  · rw [reportAll_eq, reportAll_eq, through]
    rfl
  · rw [reportAll_eq, reportAll_eq, through]
    rfl
  · rw [reportAll_eq, reportAll_eq, back]
    rfl

theorem reportAll_under (named : ∀ moduleName, s.policy.attribution moduleName =
    policy.attribution moduleName) (ds : List Diagnostic) :
    (s.under policy).reportAll ds = (s.reportAll ds).under policy := by
  have surface : (s.under policy).surface = s.surface := by
    funext d
    simp only [Sieve.surface, Diagnostic.render, under_policy, moduleOf_under, named]
  have record : (s.under policy).suppressedRecord = s.suppressedRecord := rfl
  rw [reportAll_eq, reportAll_eq, surfacing_under s alike, holding_under s alike, surface, record]
  rfl

end Sieve

namespace Compiled

def under (c : Compiled) (policy : Policy) : Compiled := { c with sieve := c.sieve.under policy }

variable (s : Settings) (colorize : Bool)

theorem conclude_under (c : Compiled) (policy : Policy) :
    (c.under policy).conclude s colorize = c.conclude s colorize := rfl

variable (compiler : Backend) (files : FileTree) (sieve : Sieve) {policy : Policy}
  (alike : sieve.policy.SameVerdicts policy)
  (named : ∀ moduleName, sieve.policy.attribution moduleName = policy.attribution moduleName)
include alike named

theorem ofSettings_under :
    ofSettings s compiler (sieve.under policy) files =
      ⟨(ofSettings s compiler sieve files).events, (ofSettings s compiler sieve files).files,
        (ofSettings s compiler sieve files).result.map fun c => c.under policy⟩ := by
  cases runs : compiler.shouldRun s.passThrough with
  | false =>
    rw [ofSettings_of_declines s compiler sieve files runs,
      ofSettings_of_declines s compiler _ files runs]
    rfl
  | true =>
    have after := sieve.reportAll_under alike named (compiler.compile s.passThrough files).diagnostics
    rw [ofSettings_of_runs s compiler sieve files runs, ofSettings_of_runs s compiler _ files runs]
    cases status : (compiler.compile s.passThrough files).status with
    | error e =>
      simp only [ofCompilation, status, after]
      rfl
    | ok value =>
      simp only [ofCompilation, status, after]
      rfl

theorem rest_under :
    (ofSettings s compiler (sieve.under policy) >>= fun compiled =>
        (compiled.conclude s colorize).mapError RunError.write) files =
      (ofSettings s compiler sieve >>= fun compiled =>
        (compiled.conclude s colorize).mapError RunError.write) files := by
  have stage := ofSettings_under s compiler files sieve alike named
  cases done : (ofSettings s compiler sieve files).result with
  | error e =>
    have failed : (ofSettings s compiler (sieve.under policy) files).result = .error e := by
      simp only [stage, done, Except.map]
    rw [Session.bind_apply_error _ _ files e done, Session.bind_apply_error _ _ files e failed]
    simp only [stage]
  | ok compiled =>
    have finished : (ofSettings s compiler (sieve.under policy) files).result =
        .ok (compiled.under policy) := by
      simp only [stage, done, Except.map]
    rw [Session.bind_apply_ok _ _ files compiled done,
      Session.bind_apply_ok _ _ files (compiled.under policy) finished]
    simp only [stage, conclude_under]

end Compiled

namespace Settings

variable {s : Settings} {infos : List String} (permuted : s.infos.Perm infos) (files : FileTree)

def withInfos (s : Settings) (infos : List String) : Settings := { s with infos }

include permuted

theorem policy_of_permuted (policy : Policy) (accepted : (s.policy files).result = .ok policy) :
    ∃ other, ((s.withInfos infos).policy files).result = .ok other ∧ policy.SameVerdicts other ∧
      ((∀ libraries, (Library.loadAll files s.infos).result = .ok libraries →
          SingleLabels libraries) →
        ∀ moduleName, policy.attribution moduleName = other.attribution moduleName) := by
  obtain ⟨libraries, kinds, loaded, resolved, built⟩ := (s.policy_eq_ok_iff files policy).mp accepted
  obtain ⟨moved, reloaded, order⟩ := Library.loadAll_perm files permuted loaded
  obtain ⟨other, rebuilt⟩ := Policy.build_perm built order
  refine ⟨other, ?_, Policy.sameVerdicts_of_perm built rebuilt order, ?_⟩
  · exact ((s.withInfos infos).policy_eq_ok_iff files other).mpr
      ⟨moved, kinds, reloaded, resolved, rebuilt⟩
  · intro single
    exact Policy.attribution_of_perm built rebuilt order (single libraries loaded)

theorem policy_error_of_permuted (e : RunError) (refused : (s.policy files).result = .error e) :
    ∃ cause, ((s.withInfos infos).policy files).result = .error cause := by
  cases other : ((s.withInfos infos).policy files).result with
  | error cause => exact ⟨cause, rfl⟩
  | ok policy =>
    have back : (s.withInfos infos).infos.Perm s.infos := permuted.symm
    obtain ⟨first, accepted, _⟩ := policy_of_permuted back files policy other
    have same : (s.withInfos infos).withInfos s.infos = s := rfl
    rw [same, refused] at accepted
    cases accepted

end Settings

section

variable {s : Settings} {infos : List String} (permuted : s.infos.Perm infos) (compiler : Backend)
  (colorize : Bool) (files : FileTree)
include permuted

theorem rejectedEarly_of_permuted :
    RejectedEarly (run s compiler colorize files) ↔
      RejectedEarly (run (s.withInfos infos) compiler colorize files) := by
  rw [rejectedEarly_iff, rejectedEarly_iff]
  constructor
  · intro rejected
    rcases rejected with ⟨e, refused⟩
    exact Settings.policy_error_of_permuted permuted files e refused
  · intro rejected
    rcases rejected with ⟨e, refused⟩
    have back : (s.withInfos infos).infos.Perm s.infos := permuted.symm
    exact Settings.policy_error_of_permuted back files e refused

theorem sameReports_of_permuted (late : ¬ RejectedEarly (run s compiler colorize files)) :
    ∃ policy other, (s.policy files).result = .ok policy ∧
      ((s.withInfos infos).policy files).result = .ok other ∧
      (s.freshSieve policy).SameReports ((s.withInfos infos).freshSieve other)
        (s.compilation compiler files).diagnostics := by
  cases accepted : (s.policy files).result with
  | error e => exact absurd ((rejectedEarly_iff ..).mpr ⟨e, accepted⟩) late
  | ok policy =>
    obtain ⟨other, again, alike, _⟩ := Settings.policy_of_permuted permuted files policy accepted
    exact ⟨policy, other, rfl, again, (s.freshSieve policy).sameReports_under alike _ rfl⟩

theorem code_of_permuted (one two : Nat) (first : (run s compiler colorize files).result = .ok one)
    (second : (run (s.withInfos infos) compiler colorize files).result = .ok two) : one = two := by
  obtain ⟨policy, _, accepted, _, _⟩ := (run_eq_ok_iff ..).mp first
  obtain ⟨other, again, alike, _⟩ := Settings.policy_of_permuted permuted files policy accepted
  obtain ⟨status, ended, decided⟩ := run_code s compiler colorize files policy accepted one first
  obtain ⟨value, finished, settled⟩ :=
    run_code (s.withInfos infos) compiler colorize files other again two second
  have same : status = value := Except.ok.inj (ended.symm.trans finished)
  have errors := ((s.freshSieve policy).sameReports_under alike
    (s.compilation compiler files).diagnostics rfl).errors
  rw [decided, settled, same, Compiled.outcome, Sieve.hasErrors, errors]
  rfl

theorem traces_of_permuted (single : ∀ libraries,
      (Library.loadAll files s.infos).result = .ok libraries → SingleLabels libraries) :
    (run s compiler colorize files).errorText =
        (run (s.withInfos infos) compiler colorize files).errorText ∧
      (run s compiler colorize files).files =
        (run (s.withInfos infos) compiler colorize files).files := by
  cases verdict : (s.policy files).result with
  | error e =>
    obtain ⟨cause, refused⟩ := Settings.policy_error_of_permuted permuted files e verdict
    obtain ⟨silent, left⟩ := run_traces_of_rejected s compiler colorize files e verdict
    obtain ⟨mute, stays⟩ :=
      run_traces_of_rejected (s.withInfos infos) compiler colorize files cause refused
    exact ⟨silent.trans mute.symm, left.trans stays.symm⟩
  | ok policy =>
    obtain ⟨other, again, alike, named⟩ := Settings.policy_of_permuted permuted files policy verdict
    obtain ⟨text, left⟩ := run_traces_of_accepted s compiler colorize files policy verdict
    obtain ⟨same, stays⟩ :=
      run_traces_of_accepted (s.withInfos infos) compiler colorize files other again
    have rest := Compiled.rest_under s colorize compiler files (s.freshSieve policy) alike
      (named single)
    rw [text, left, ← rest]
    exact ⟨same.symm, stays.symm⟩

end

/-- The order in which the libraries are described does not decide whether a run is rejected, what it
surfaces and counts, or how it ends. What it writes depends on the order only through the label of a
module that strict libraries with different labels share. -/
theorem run_of_permuted_infos (s : Settings) (infos : List String) (permuted : s.infos.Perm infos)
    (compiler : Backend) (colorize : Bool) (files : FileTree) :
    let first := run s compiler colorize files
    let second := run (s.withInfos infos) compiler colorize files
    (RejectedEarly first ↔ RejectedEarly second) ∧
    (¬ RejectedEarly first → ∃ policy other, (s.policy files).result = .ok policy ∧
      ((s.withInfos infos).policy files).result = .ok other ∧
      (s.freshSieve policy).SameReports ((s.withInfos infos).freshSieve other)
        (s.compilation compiler files).diagnostics) ∧
    (∀ one two, first.result = .ok one → second.result = .ok two → one = two) ∧
    ((∀ libraries, (Library.loadAll files s.infos).result = .ok libraries → SingleLabels libraries) →
      first.errorText = second.errorText ∧ first.files = second.files) :=
  ⟨rejectedEarly_of_permuted permuted compiler colorize files,
    sameReports_of_permuted permuted compiler colorize files,
    code_of_permuted permuted compiler colorize files,
    traces_of_permuted permuted compiler colorize files⟩

/-- Two strict libraries that list the same module under different labels. -/
def twinFiles : FileTree where
  entries :=
    [(["a"], .file "\x7b\"label\":\"//a\",\"modules\":[\"m\"]\x7d".toUTF8 false),
     (["b"], .file "\x7b\"label\":\"//b\",\"modules\":[\"m\"]\x7d".toUTF8 false)]

def twinSettings : Settings := { infos := ["a", "b"] }

def deadCodeCompiler : Compiler := fun _ files =>
  { diagnostics :=
      [⟨.error, some "JSC_UNREACHABLE_CODE", "unreachable code", some "m.js", none, none, []⟩]
    files
    status := .ok 0 }

theorem twinRuns_end_alike :
    let second := run (twinSettings.withInfos ["b", "a"]) deadCodeCompiler false twinFiles
    (run twinSettings deadCodeCompiler false twinFiles).result = .ok 1 ∧ ¬ RejectedEarly second ∧
      (∀ code, second.result = .ok code → code = 1) ∧
      (run twinSettings deadCodeCompiler false twinFiles).errorText ≠ second.errorText := by
  have finished : (run twinSettings deadCodeCompiler false twinFiles).result = .ok 1 := by
    decide +kernel
  have order := run_of_permuted_infos twinSettings ["b", "a"] (List.Perm.swap "b" "a" [])
    deadCodeCompiler false twinFiles
  refine ⟨finished, ?_, ?_, by decide +kernel⟩
  · rw [← order.1]
    intro early
    rcases early with ⟨e, failed, _⟩
    rw [finished] at failed
    cases failed
  · intro code done
    exact (order.2.2.1 1 code finished done).symm

end DiagnosticSieve
