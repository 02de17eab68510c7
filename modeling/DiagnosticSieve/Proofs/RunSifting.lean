import DiagnosticSieve.Proofs.RunStages
import DiagnosticSieve.Proofs.SessionEnds

namespace DiagnosticSieve

theorem Session.bind_assoc {ε α β γ : Type} (x : Session ε α) (f : α → Session ε β)
    (g : β → Session ε γ) : x >>= f >>= g = x >>= fun value => f value >>= g := by
  funext files
  cases first : (x files).result with
  | error e =>
    have failed : ((x >>= f) files).result = .error e := by rw [bind_apply_error x f files e first]
    rw [bind_apply_error _ g files e failed, bind_apply_error x f files e first,
      bind_apply_error x _ files e first]
  | ok value =>
    have left := bind_apply_ok x f files value first
    rw [bind_apply_ok x _ files value first]
    cases second : (f value (x files).files).result with
    | error e =>
      have failed : ((x >>= f) files).result = .error e := by rw [left, second]
      rw [bind_apply_error _ g files e failed, bind_apply_error (f value) g _ e second, left]
    | ok last =>
      have done : ((x >>= f) files).result = .ok last := by rw [left, second]
      rw [bind_apply_ok _ g files last done, bind_apply_ok (f value) g _ last second, left]
      simp only [List.append_assoc]

theorem Session.bind_congr {ε α β : Type} {x : Session ε α} {next follow : α → Session ε β}
    {files : FileTree} (same : ∀ value, next value (x files).files = follow value (x files).files) :
    (x >>= next) files = (x >>= follow) files := by
  show Session.bind x next files = Session.bind x follow files
  simp only [Session.bind, same]

namespace Settings

/-- A run up to the end of its compilation. -/
def sifted (s : Settings) (compiler : Backend) : Session RunError Compiled := do
  let policy ← .consult s.policy
  Compiled.ofSettings s compiler (s.freshSieve policy)

variable (s : Settings) (compiler : Backend) (colorize : Bool) (files : FileTree)

theorem run_eq_sifted :
    run s compiler colorize =
      s.sifted compiler >>= fun compiled => (compiled.conclude s colorize).mapError .write := by
  rw [sifted, Session.bind_assoc]
  rfl

theorem sifted_eq_ok_iff (c : Compiled) :
    (s.sifted compiler files).result = .ok c ↔
      ∃ policy, (s.policy files).result = .ok policy ∧
        (s.compilation compiler files).status = .ok c.status ∧
        c.sieve = (s.freshSieve policy).reportAll (s.compilation compiler files).diagnostics := by
  rw [sifted, Session.result_bind_eq_ok_iff]
  apply exists_congr
  intro policy
  apply and_congr_right
  intro _
  show (Compiled.ofSettings s compiler (s.freshSieve policy) files).result = .ok c ↔ _
  rw [Compiled.ofSettings_result]
  obtain ⟨sieve, status⟩ := c
  cases (s.compilation compiler files).status with
  | error e => simp
  | ok value => simp [eq_comm, and_comm]

theorem sifted_eq_error_iff (e : RunError) :
    (s.sifted compiler files).result = .error e ↔
      (s.policy files).result = .error e ∨
        ∃ policy cause, (s.policy files).result = .ok policy ∧
          (s.compilation compiler files).status = .error cause ∧ e = .compiler cause := by
  rw [sifted, Session.result_bind_eq_error_iff]
  apply or_congr_right
  apply exists_congr
  intro policy
  rw [exists_and_left]
  apply and_congr_right
  intro _
  show (Compiled.ofSettings s compiler (s.freshSieve policy) files).result = .error e ↔ _
  rw [Compiled.ofSettings_result]
  cases (s.compilation compiler files).status <;> simp [eq_comm]

theorem code_of_sifted (code : Nat)
    (finished : (run s compiler colorize files).result = .ok code) :
    ∃ c, (s.sifted compiler files).result = .ok c ∧ code = (c.outcome s).decide.exitCode := by
  rw [run_eq_sifted, Session.result_bind_eq_ok_iff] at finished
  rcases finished with ⟨c, done, concluded⟩
  have ended := (Session.result_mapError_eq_ok_iff ..).mp concluded
  exact ⟨c, done, c.conclude_code s colorize _ code ended⟩

theorem ends_run_iff (code : Nat) (left : FileTree) :
    (run s compiler colorize).Ends files code left ↔
      ∃ c between, (s.sifted compiler).Ends files c between ∧
        (c.conclude s colorize).Ends between code left := by
  rw [run_eq_sifted, Session.ends_bind_iff]
  simp only [Session.ends_mapError_iff]

theorem run_compilerArguments_eq_sifted :
    (run s compiler colorize files).compilerArguments =
      (s.sifted compiler files).compilerArguments := by
  rw [run_eq_sifted]
  cases done : (s.sifted compiler files).result with
  | error e =>
    rw [Session.bind_apply_error _ _ files e done]
    rfl
  | ok c =>
    have concluded := findSome?_startArguments?_of_messages _
      (((c.conclude_emits s colorize).mapError RunError.write) (s.sifted compiler files).files)
    rw [Session.bind_apply_ok _ _ files c done, Progress.compilerArguments_eq, List.findSome?_append,
      concluded, Option.or_none]
    rfl

end Settings

end DiagnosticSieve
