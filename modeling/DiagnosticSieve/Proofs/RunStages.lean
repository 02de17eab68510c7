import DiagnosticSieve.Proofs.SessionEvents
import DiagnosticSieve.Run

/-!
Stages of a run: the policy, the compilation and the conclusion, and what each of them contributes to
the result and the events of the whole.
-/

namespace DiagnosticSieve

theorem Outcome.finalize_decision (o : Outcome) (files : FileTree) (decision : Decision)
    (decided : (o.finalize files).result = .ok decision) : decision = o.decide := by
  rw [finalize, Session.result_bind_eq_ok_iff] at decided
  obtain ⟨_, _, decided⟩ := decided
  rw [Session.result_bind_eq_ok_iff] at decided
  obtain ⟨_, _, decided⟩ := decided
  cases decided
  rfl

namespace Compiled

def tell (c : Compiled) (s : Settings) (colorize : Bool) : Session WriteError Unit :=
  if (c.outcome s).showsDiagnostics then .emit (c.shown colorize) else pure ()

def notice (decision : Decision) (colorize : Bool) : Session WriteError Unit :=
  if decision.missingFailure then .say (paint Decision.missingFailureNotice none colorize)
  else pure ()

theorem conclude_eq (c : Compiled) (s : Settings) (colorize : Bool) :
    c.conclude s colorize = (do
      .note c.sieve.countsRecord
      c.tell s colorize
      c.capture s
      let decision ← (c.outcome s).finalize
      notice decision colorize
      pure decision.exitCode) := by
  have ending (decision : Decision) :
      (if decision.missingFailure = true then do
        Session.say (paint Decision.missingFailureNotice none colorize)
        pure decision.exitCode
      else pure decision.exitCode : Session WriteError Nat) = (do
        notice decision colorize
        pure decision.exitCode) := by
    cases missing : decision.missingFailure with
    | true => simp [notice, missing]
    | false =>
      simp [notice, missing]
      rfl
  cases shows : (c.outcome s).showsDiagnostics with
  | true =>
    simp only [conclude, tell, shows, if_true, ending]
  | false =>
    simp only [conclude, tell, shows, ending]
    rfl

theorem conclude_code (c : Compiled) (s : Settings) (colorize : Bool) (files : FileTree) (code : Nat)
    (finished : (c.conclude s colorize files).result = .ok code) :
    code = (c.outcome s).decide.exitCode := by
  rw [conclude_eq, Session.result_bind_eq_ok_iff] at finished
  obtain ⟨_, _, finished⟩ := finished
  rw [Session.result_bind_eq_ok_iff] at finished
  obtain ⟨_, _, finished⟩ := finished
  rw [Session.result_bind_eq_ok_iff] at finished
  obtain ⟨_, _, finished⟩ := finished
  rw [Session.result_bind_eq_ok_iff] at finished
  obtain ⟨decision, decided, finished⟩ := finished
  rw [Session.result_bind_eq_ok_iff] at finished
  obtain ⟨_, _, finished⟩ := finished
  cases finished
  rw [(c.outcome s).finalize_decision _ decision decided]

theorem shown_messages (c : Compiled) (colorize : Bool) :
    ∀ event ∈ c.shown colorize, event.IsMessage := by
  intro event member
  rw [shown] at member
  split at member
  · cases member
  · rcases List.mem_append.mp member with surfaced | summary
    · obtain ⟨x, _, rfl⟩ := List.mem_map.mp surfaced
      trivial
    · rw [List.mem_singleton.mp summary]
      trivial

section

variable {p : Event → Prop} (records : ∀ r, p (.record r))
include records

theorem note_emits {ε : Type} (r : LogRecord) : Session.Emits p (.note r : Session ε Unit) := by
  apply Session.Emits.emit
  intro event member
  rw [List.mem_singleton.mp member]
  exact records r

theorem finalize_emits (o : Outcome) : Session.Emits p o.finalize := by
  have output : Session.Emits p o.emptyOutput := by
    rw [Outcome.emptyOutput]
    split
    · exact .ite _ (.bind (note_emits records _) fun _ => .write _ _) (.pure _)
    · exact .pure _
  have sourceMap : Session.Emits p o.ensureSourceMap := by
    rw [Outcome.ensureSourceMap]
    split
    · refine .bind (.pathExists _) fun _ => .ite _ (.pure _) ?_
      exact .bind (note_emits records _) fun _ => .write _ _
    · exact .pure _
  exact .bind output fun _ => .bind sourceMap fun _ => .pure _

end

theorem capture_emits {p : Event → Prop} (c : Compiled) (s : Settings) :
    Session.Emits p (c.capture s) := by
  rw [capture]
  split
  · exact .write _ _
  · exact .pure _

theorem conclude_emits (c : Compiled) (s : Settings) (colorize : Bool) :
    Session.Emits Event.IsMessage (c.conclude s colorize) := by
  have logged (r : LogRecord) : Event.IsMessage (.record r) := trivial
  have told : Session.Emits Event.IsMessage (c.tell s colorize) :=
    .ite _ (.emit (c.shown_messages colorize)) (.pure _)
  have noticed (decision : Decision) : Session.Emits Event.IsMessage (notice decision colorize) := by
    refine .ite _ (.emit ?_) (.pure _)
    intro event member
    rw [List.mem_singleton.mp member]
    trivial
  rw [conclude_eq]
  exact .bind (note_emits logged _) fun _ => .bind told fun _ => .bind (c.capture_emits s) fun _ =>
    .bind (finalize_emits logged _) fun decision => .bind (noticed decision) fun _ => .pure _

end Compiled

namespace Settings

/-- The compiler is only asked for its help or version. -/
def Skips (s : Settings) : Prop := "--help" ∈ s.passThrough ∨ "--version" ∈ s.passThrough

theorem compiles_iff (s : Settings) : s.compiles = true ↔ ¬ s.Skips := by
  simp only [compiles, compilesAnything, Skips, Bool.not_eq_true', List.any_eq_false,
    Bool.or_eq_true, decide_eq_true_eq]
  constructor
  · intro none_such asked
    rcases asked with help | version
    · exact none_such _ help (.inl rfl)
    · exact none_such _ version (.inr rfl)
  · intro absent text member asked
    rcases asked with rfl | rfl
    · exact absent (.inl member)
    · exact absent (.inr member)

/-- The compilation of a run. It is an empty one where the compiler is not run. -/
def compilation (s : Settings) (compiler : Backend) (files : FileTree) : Compilation :=
  if compiler.shouldRun s.passThrough then compiler.compile s.passThrough files
  else { files, status := .ok 0 }

theorem compilation_of_declines (s : Settings) (compiler : Backend) (files : FileTree)
    (declines : compiler.shouldRun s.passThrough = false) :
    s.compilation compiler files = { files, status := .ok 0 } :=
  if_neg (Bool.not_eq_true _ ▸ declines)

theorem compilation_of_runs (s : Settings) (compiler : Backend) (files : FileTree)
    (runs : compiler.shouldRun s.passThrough = true) :
    s.compilation compiler files = compiler.compile s.passThrough files :=
  if_pos runs

def freshSieve (s : Settings) (policy : Policy) : Sieve := { policy, roots := s.roots }

def policyEvents (s : Settings) (files : FileTree) : List Event :=
  (s.policy files).records.map .record

theorem policyEvents_messages (s : Settings) (files : FileTree) :
    ∀ event ∈ s.policyEvents files, event.IsMessage := by
  intro event member
  obtain ⟨r, _, rfl⟩ := List.mem_map.mp member
  trivial

end Settings

namespace Compiled

variable (s : Settings) (compiler : Backend) (sieve : Sieve) (files : FileTree)

theorem ofSettings_of_declines (declines : compiler.shouldRun s.passThrough = false) :
    ofSettings s compiler sieve files = ⟨[], files, .ok ⟨sieve, 0⟩⟩ := by
  rw [ofSettings, declines]
  rfl

theorem ofSettings_of_runs (runs : compiler.shouldRun s.passThrough = true) :
    ofSettings s compiler sieve files =
      ofCompilation sieve (compiler.compile s.passThrough files) files := by
  rw [ofSettings, runs]
  rfl

theorem ofSettings_of_skips (compiler : Compiler) (skips : s.Skips) :
    ofSettings s compiler sieve files = ⟨[], files, .ok ⟨sieve, 0⟩⟩ := by
  apply ofSettings_of_declines
  exact Bool.eq_false_iff.mpr fun compiles => s.compiles_iff.mp compiles skips

theorem ofSettings_of_compiles (compiler : Compiler) (compiles : ¬ s.Skips) :
    ofSettings s compiler sieve files =
      ofCompilation sieve (compiler s.passThrough files) files :=
  ofSettings_of_runs s compiler sieve files (s.compiles_iff.mpr compiles)

theorem ofSettings_result :
    (ofSettings s compiler sieve files).result =
      match (s.compilation compiler files).status with
      | .ok status => .ok ⟨sieve.reportAll (s.compilation compiler files).diagnostics, status⟩
      | .error e => .error (.compiler e) := by
  cases runs : compiler.shouldRun s.passThrough with
  | false =>
    rw [ofSettings_of_declines s compiler sieve files runs,
      s.compilation_of_declines compiler files runs]
    rfl
  | true =>
    rw [ofSettings_of_runs s compiler sieve files runs, s.compilation_of_runs compiler files runs,
      ofCompilation]
    cases (compiler.compile s.passThrough files).status <;> rfl

end Compiled

variable (s : Settings) (compiler : Backend) (colorize : Bool) (files : FileTree)

theorem run_of_rejected (e : RunError) (rejected : (s.policy files).result = .error e) :
    run s compiler colorize files = ⟨s.policyEvents files, files, .error e⟩ := by
  rw [run]
  exact Session.bind_apply_error _ _ files e rejected

theorem run_of_accepted (policy : Policy) (accepted : (s.policy files).result = .ok policy) :
    run s compiler colorize files =
      let rest := (Compiled.ofSettings s compiler (s.freshSieve policy) >>= fun compiled =>
        (compiled.conclude s colorize).mapError .write) files
      ⟨s.policyEvents files ++ rest.events, rest.files, rest.result⟩ := by
  rw [run]
  exact Session.bind_apply_ok _ _ files policy accepted

theorem run_compilerArguments (policy : Policy) (accepted : (s.policy files).result = .ok policy) :
    (run s compiler colorize files).compilerArguments =
      (Compiled.ofSettings s compiler (s.freshSieve policy) files).compilerArguments := by
  have quiet := findSome?_startArguments?_of_messages _ (s.policyEvents_messages files)
  rw [run_of_accepted s compiler colorize files policy accepted]
  simp only [Progress.compilerArguments_eq, List.findSome?_append, quiet, Option.none_or]
  cases compiled : (Compiled.ofSettings s compiler (s.freshSieve policy) files).result with
  | error e => rw [Session.bind_apply_error _ _ files e compiled]
  | ok value =>
    have concluded := findSome?_startArguments?_of_messages _
      (((value.conclude_emits s colorize).mapError RunError.write)
        (Compiled.ofSettings s compiler (s.freshSieve policy) files).files)
    rw [Session.bind_apply_ok _ _ files value compiled, List.findSome?_append, concluded,
      Option.or_none]

/-- A run ends in a code exactly if its three stages are carried out one after the other. -/
theorem run_eq_ok_iff (code : Nat) :
    (run s compiler colorize files).result = .ok code ↔
      ∃ policy compiled, (s.policy files).result = .ok policy ∧
        (Compiled.ofSettings s compiler (s.freshSieve policy) files).result = .ok compiled ∧
        (compiled.conclude s colorize
          (Compiled.ofSettings s compiler (s.freshSieve policy) files).files).result = .ok code := by
  rw [run, Session.result_bind_eq_ok_iff]
  constructor
  · intro success
    rcases success with ⟨policy, accepted, rest⟩
    obtain ⟨compiled, done, finished⟩ := (Session.result_bind_eq_ok_iff ..).mp rest
    exact ⟨policy, compiled, accepted, done, (Session.result_mapError_eq_ok_iff ..).mp finished⟩
  · intro stages
    rcases stages with ⟨policy, compiled, accepted, done, finished⟩
    refine ⟨policy, accepted, (Session.result_bind_eq_ok_iff ..).mpr ⟨compiled, done, ?_⟩⟩
    exact (Session.result_mapError_eq_ok_iff ..).mpr finished

theorem run_code (policy : Policy) (accepted : (s.policy files).result = .ok policy) (code : Nat)
    (finished : (run s compiler colorize files).result = .ok code) :
    ∃ status, (s.compilation compiler files).status = .ok status ∧
      code = (Compiled.outcome
        ⟨(s.freshSieve policy).reportAll (s.compilation compiler files).diagnostics, status⟩
        s).decide.exitCode := by
  obtain ⟨same, compiled, found, done, concluded⟩ := (run_eq_ok_iff ..).mp finished
  rw [accepted] at found
  cases found
  have decided := compiled.conclude_code s colorize _ code concluded
  rw [Compiled.ofSettings_result] at done
  cases status : (s.compilation compiler files).status with
  | error e =>
    rw [status] at done
    cases done
  | ok value =>
    rw [status] at done
    cases done
    exact ⟨value, rfl, decided⟩

theorem run_traces_of_rejected (e : RunError) (rejected : (s.policy files).result = .error e) :
    (run s compiler colorize files).errorText = "" ∧
      (run s compiler colorize files).files = files := by
  have silent := Progress.errorText_records_append (s.policy files).records [] files
    (.error e : Except RunError Nat)
  rw [List.append_nil] at silent
  rw [run_of_rejected s compiler colorize files e rejected]
  exact ⟨silent, rfl⟩

theorem run_traces_of_accepted (policy : Policy)
    (accepted : (s.policy files).result = .ok policy) :
    let rest := (Compiled.ofSettings s compiler (s.freshSieve policy) >>= fun compiled =>
      (compiled.conclude s colorize).mapError RunError.write) files
    (run s compiler colorize files).errorText = rest.errorText ∧
      (run s compiler colorize files).files = rest.files := by
  rw [run_of_accepted s compiler colorize files policy accepted]
  exact ⟨Progress.errorText_records_append .., rfl⟩

end DiagnosticSieve
