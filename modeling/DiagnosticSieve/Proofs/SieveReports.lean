import DiagnosticSieve.Sieve

namespace DiagnosticSieve

/-- Whether a policy keeps a diagnostic from being surfaced: its key is registered, and the kind is
suppressed in its module; or it has no key or one that is not registered, and the module is lenient. -/
def Policy.Silences (policy : Policy) (roots : List String) (d : Diagnostic) : Prop :=
  (∃ key k, d.key = some key ∧ Kind.ofKey? key = some k ∧
      policy.suppresses (d.moduleIn roots) k = true) ∨
    (∀ key, d.key = some key → Kind.ofKey? key = none) ∧
      policy.isLegacy (d.moduleIn roots) = true

theorem Policy.silences_iff_kind? (policy : Policy) (roots : List String) (d : Diagnostic) :
    policy.Silences roots d ↔
      (∃ k, d.kind? = some k ∧ policy.suppresses (d.moduleIn roots) k = true) ∨
        d.kind? = none ∧ policy.isLegacy (d.moduleIn roots) = true := by
  rw [Silences, Diagnostic.kind?]
  cases d.key with
  | none => simp
  | some key => simp

namespace Sieve

theorem suppresses_iff_silences (s : Sieve) (d : Diagnostic) :
    s.suppresses d = true ↔ s.policy.Silences s.roots d := by
  have place : s.moduleOf d = d.moduleIn s.roots := rfl
  rw [s.policy.silences_iff_kind?]
  cases known : d.kind? with
  | none => simp [suppresses, known, place]
  | some k => simp [suppresses, known, place]

def surfacing (s : Sieve) (ds : List Diagnostic) : List Diagnostic :=
  ds.filter fun d => !s.suppresses d

def holding (s : Sieve) (ds : List Diagnostic) : List Diagnostic := ds.filter s.suppresses

theorem mem_surfacing_iff (s : Sieve) (ds : List Diagnostic) (d : Diagnostic) :
    d ∈ s.surfacing ds ↔ d ∈ ds ∧ ¬ s.policy.Silences s.roots d := by
  rw [surfacing, List.mem_filter, ← suppresses_iff_silences]
  simp

/-- Every report goes to exactly one of the lists and counters. -/
theorem reportAll_eq (s : Sieve) (ds : List Diagnostic) :
    s.reportAll ds =
      { s with
        surfaced := s.surfaced ++ (s.surfacing ds).map s.surface
        errors := s.errors + (s.surfacing ds).countP fun d => d.severity = .error
        warnings := s.warnings + (s.surfacing ds).countP fun d => d.severity = .warning
        suppressed := s.suppressed + (s.holding ds).length
        records := s.records ++ (s.holding ds).map s.suppressedRecord } := by
  -- The counters go on from those of any sieve, so that the sieve has to vary.
  induction ds generalizing s with
  | nil => simp [reportAll, surfacing, holding]
  | cons d ds ih =>
    have step : s.reportAll (d :: ds) = (s.report d).reportAll ds := rfl
    rw [step, ih]
    by_cases held : s.suppresses d = true
    · have report : s.report d = { s with
          suppressed := s.suppressed + 1
          records := s.records ++ [s.suppressedRecord d] } := by rw [Sieve.report, Sieve.offer, if_pos held]
      have through : s.surfacing (d :: ds) = s.surfacing ds := by simp [surfacing, held]
      have back : s.holding (d :: ds) = d :: s.holding ds := by simp [holding, held]
      rw [report, through, back]
      simp only [List.length_cons, List.map_cons, List.append_assoc, List.singleton_append,
        Nat.add_assoc, Nat.add_comm 1]
      rfl
    · have report : s.report d = { s with
          surfaced := s.surfaced ++ [s.surface d]
          errors := if d.severity = .error then s.errors + 1 else s.errors
          warnings := if d.severity = .warning then s.warnings + 1 else s.warnings } := by
        rw [Sieve.report, Sieve.offer, if_neg held]
      have through : s.surfacing (d :: ds) = d :: s.surfacing ds := by simp [surfacing, held]
      have back : s.holding (d :: ds) = s.holding ds := by simp [holding, held]
      rw [report, through, back]
      cases severity : d.severity <;>
        simp only [List.map_cons, List.append_assoc, List.singleton_append, List.countP_cons,
          severity, reduceCtorEq, if_true, if_false, decide_true, decide_false, Nat.add_assoc,
          Nat.add_comm 1, Nat.add_zero] <;>
        rfl

end Sieve

end DiagnosticSieve
