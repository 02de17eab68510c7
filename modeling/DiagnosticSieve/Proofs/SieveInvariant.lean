import DiagnosticSieve.Proofs.SieveReports

/-!
The invariant of a sieve. After any number of reports its list, its counters, its log and its answers
tell the same: which of the diagnostics the policy lets through.
-/

namespace DiagnosticSieve

instance (policy : Policy) (roots : List String) (d : Diagnostic) :
    Decidable (policy.Silences roots d) :=
  decidable_of_iff _ (Sieve.suppresses_iff_silences { policy, roots } d)

def LogRecord.tellsSuppression (r : LogRecord) : Bool :=
  r.level = .debug && "Suppressed ".toList.isPrefixOf r.message.toList

def Policy.audible (policy : Policy) (roots : List String) (ds : List Diagnostic) :
    List Diagnostic :=
  ds.filter fun d => ¬ policy.Silences roots d

namespace Sieve

def fresh (policy : Policy) (roots : List String) : Sieve := { policy, roots }

/-- A sieve tells of a list of reports what a policy says of them. -/
structure Reflects (s : Sieve) (policy : Policy) (roots : List String) (ds : List Diagnostic) :
    Prop where
  surfaced : s.surfaced = (policy.audible roots ds).map fun d =>
    ⟨d.severity, d.moduleIn roots, d.render policy (d.moduleIn roots)⟩
  errors : s.errors = s.surfaced.countP fun x => x.severity = .error
  warnings : s.warnings = s.surfaced.countP fun x => x.severity = .warning
  total : s.errors + s.warnings + s.suppressed = ds.length
  logged : s.records.countP LogRecord.tellsSuppression = s.suppressed
  hasErrors : s.hasErrors = true ↔ ∃ x ∈ s.surfaced, x.severity = .error

theorem suppresses_eq_silences (s : Sieve) :
    s.suppresses = fun d => decide (s.policy.Silences s.roots d) := by
  funext d
  exact Bool.eq_iff_iff.mpr ((suppresses_iff_silences s d).trans decide_eq_true_iff.symm)

theorem suppresses_report (s : Sieve) (d : Diagnostic) : (s.report d).suppresses = s.suppresses := by
  rw [report, offer]
  split <;> rfl

theorem offer_answer (s : Sieve) (d : Diagnostic) : (s.offer d).1 = !s.suppresses d := by
  rw [offer]
  split <;> simp [*]

theorem answers_eq (s : Sieve) (ds : List Diagnostic) :
    s.answers ds = ds.map fun d => !s.suppresses d := by
  induction ds generalizing s with
  | nil => rfl
  | cons d ds ih => rw [answers, offer_answer, ih, suppresses_report, List.map_cons]

theorem suppressedRecord_tellsSuppression (s : Sieve) (d : Diagnostic) :
    (s.suppressedRecord d).tellsSuppression = true := by
  simp [suppressedRecord, LogRecord.debug, LogRecord.tellsSuppression, String.toList_append,
    List.append_assoc]

theorem countP_error_add_countP_warning (ds : List Diagnostic) :
    (ds.countP fun d => d.severity = .error) + (ds.countP fun d => d.severity = .warning) =
      ds.length := by
  induction ds with
  | nil => rfl
  | cons d ds ih =>
    rw [List.countP_cons, List.countP_cons, List.length_cons]
    cases severity : d.severity <;> simp <;> omega

theorem length_surfacing_add_length_holding (s : Sieve) (ds : List Diagnostic) :
    (s.surfacing ds).length + (s.holding ds).length = ds.length := by
  rw [surfacing, holding, Nat.add_comm]
  simpa [List.countP_eq_length_filter] using
    (List.length_eq_countP_add_countP s.suppresses (l := ds)).symm

section

variable (policy : Policy) (roots : List String) (ds : List Diagnostic)

theorem surfacing_fresh : (fresh policy roots).surfacing ds = policy.audible roots ds := by
  rw [surfacing, suppresses_eq_silences, Policy.audible]
  simp only [decide_not]
  rfl

theorem reportAll_fresh :
    (fresh policy roots).reportAll ds =
      { policy, roots
        surfaced := (policy.audible roots ds).map (fresh policy roots).surface
        errors := (policy.audible roots ds).countP fun d => d.severity = .error
        warnings := (policy.audible roots ds).countP fun d => d.severity = .warning
        suppressed := ((fresh policy roots).holding ds).length
        records := ((fresh policy roots).holding ds).map (fresh policy roots).suppressedRecord } := by
  rw [reportAll_eq, surfacing_fresh]
  simp [fresh]

theorem reportAll_reflects : ((fresh policy roots).reportAll ds).Reflects policy roots ds := by
  rw [reportAll_fresh]
  constructor
  · rfl
  · rw [List.countP_map]
    rfl
  · rw [List.countP_map]
    rfl
  · show _ + _ + ((fresh policy roots).holding ds).length = _
    rw [countP_error_add_countP_warning, ← surfacing_fresh, length_surfacing_add_length_holding]
  · rw [List.countP_map, List.countP_eq_length]
    exact fun d _ => suppressedRecord_tellsSuppression _ d
  · simp only [hasErrors, decide_eq_true_iff, List.countP_pos_iff, List.mem_map]
    constructor
    · intro ⟨d, member, severe⟩
      exact ⟨_, ⟨d, member, rfl⟩, severe⟩
    · rintro ⟨x, ⟨d, member, rfl⟩, severe⟩
      exact ⟨d, member, severe⟩

/-- After any number of reports, a sieve has surfaced what its policy does not silence, in order, has
counted and logged each report once, and has answered for each whether it was surfaced. -/
theorem reports_stay_in_step (n : Nat) :
    ((fresh policy roots).reportAll (ds.take n)).Reflects policy roots (ds.take n) ∧
      (fresh policy roots).answers (ds.take n) =
        (ds.take n).map fun d => decide (¬ policy.Silences roots d) := by
  refine ⟨reportAll_reflects policy roots _, ?_⟩
  rw [answers_eq, suppresses_eq_silences]
  simp only [decide_not]
  rfl

end

/-- One module is lenient, and one has an owner that suppresses a kind. -/
def twoModulePolicy : Policy where
  everywhere := ∅
  lenient := ["old"]
  owners :=
    { labels := [("m", "//m")], suppressions := [("m", .ofList [.evalUse])] }

def mixedReports : List Diagnostic :=
  [⟨.warning, some "JSC_EVAL_USE", "eval", some "m.js", none, none, []⟩,
   ⟨.error, some "JSC_UNREACHABLE_CODE", "unreachable code", some "m.js", none, none, []⟩,
   ⟨.error, some "JSC_MADE_UP", "odd", some "old.js", none, none, []⟩,
   ⟨.warning, some "JSC_MADE_UP", "odd", some "m.js", none, none, []⟩,
   ⟨.error, none, "out of memory", none, none, none, []⟩,
   ⟨.warning, none, "slow", some "old.js", none, none, []⟩]

theorem mixedReports_stay_in_step :
    let s := (fresh twoModulePolicy []).reportAll (mixedReports.take 6)
    (fresh twoModulePolicy []).answers (mixedReports.take 6) =
        [false, true, false, true, true, false] ∧
      s.errors = 2 ∧ s.warnings = 1 ∧ s.suppressed = 3 ∧
      s.surfaced.map Surfaced.moduleName = ["m", "m", ""] := by
  intro s
  obtain ⟨reflects, answered⟩ := reports_stay_in_step twoModulePolicy [] mixedReports 6
  have errors : s.errors = 2 := by
    rw [reflects.errors, reflects.surfaced]
    decide +kernel
  have warnings : s.warnings = 1 := by
    rw [reflects.warnings, reflects.surfaced]
    decide +kernel
  have total : s.errors + s.warnings + s.suppressed = 6 := reflects.total
  refine ⟨answered.trans (by decide +kernel), errors, warnings, by omega, ?_⟩
  rw [reflects.surfaced]
  decide +kernel

end Sieve

end DiagnosticSieve
