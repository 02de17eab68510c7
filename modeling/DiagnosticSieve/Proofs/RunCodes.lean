import DiagnosticSieve.Proofs.PolicyFaults
import DiagnosticSieve.Proofs.PolicyLeniency
import DiagnosticSieve.Proofs.RunSifting
import DiagnosticSieve.Proofs.RunVerdict

namespace DiagnosticSieve

namespace Policy

theorem build_covers {libraries : List Library} {narrow wide : KindSet} {policy : Policy}
    (built : (build libraries narrow).result = .ok policy) (wider : ∀ k ∈ narrow, k ∈ wide) :
    ∃ other, (build libraries wide).result = .ok other ∧ other.Covers policy := by
  rcases (build_eq_ok_iff libraries narrow policy).mp built with ⟨owners, owned, rfl⟩
  refine ⟨⟨wide, legacyModules libraries, owners⟩, ?_, ?_⟩
  · exact (build_eq_ok_iff libraries wide _).mpr ⟨owners, owned, rfl⟩
  · exact covers_of_same_owners rfl wider fun _ lenient => lenient

end Policy

namespace Settings

def withCodes (s : Settings) (codes : List String) : Settings := { s with suppressCodes := codes }

variable {s : Settings} {codes : List String} {files : FileTree} {narrow wide : KindSet}

theorem FirstFault.withCodes {e : RunError} (resolved : s.everywhere = .ok narrow)
    (known : ∀ code ∈ codes, kindsOfCode? code ≠ none) (fault : s.FirstFault files e) :
    (s.withCodes codes).FirstFault files e := by
  cases fault with
  | load before path after cause infos loadable fault =>
    exact .load before path after cause infos loadable fault
  | unknownCode before code after loadable split _ unknown =>
    have member : code ∈ s.suppressCodes := by simp [split]
    exact absurd unknown (((s.everywhere_eq_ok_iff narrow).mp resolved).1 code member)
  | ownership libraries cause loaded _ refused => exact .ownership libraries cause loaded known refused

variable (resolved : s.everywhere = .ok narrow)
  (resolvedToo : (s.withCodes codes).everywhere = .ok wide)
include resolved resolvedToo

theorem policy_error_withCodes (e : RunError) :
    (s.policy files).result = .error e ↔ ((s.withCodes codes).policy files).result = .error e := by
  have known := ((s.everywhere_eq_ok_iff narrow).mp resolved).1
  have knownToo := (((s.withCodes codes).everywhere_eq_ok_iff wide).mp resolvedToo).1
  have back : (s.withCodes codes).withCodes s.suppressCodes = s := rfl
  rw [policy_eq_error_iff, policy_eq_error_iff]
  constructor
  · exact FirstFault.withCodes resolved knownToo
  · intro fault
    have moved := fault.withCodes resolvedToo known
    rwa [back] at moved

theorem policy_ok_withCodes {policy : Policy} (accepted : (s.policy files).result = .ok policy) :
    ∃ other, ((s.withCodes codes).policy files).result = .ok other := by
  cases found : ((s.withCodes codes).policy files).result with
  | ok other => exact ⟨other, rfl⟩
  | error e =>
    have refused := (policy_error_withCodes resolved resolvedToo e).mpr found
    rw [accepted] at refused
    cases refused

theorem sifted_error_withCodes {one other : Backend}
    (status : ((s.withCodes codes).compilation other files).status =
      (s.compilation one files).status) (e : RunError) :
    (s.sifted one files).result = .error e ↔
      ((s.withCodes codes).sifted other files).result = .error e := by
  have back : ((s.withCodes codes).withCodes s.suppressCodes).everywhere = .ok narrow := resolved
  rw [sifted_eq_error_iff, sifted_eq_error_iff, status]
  apply or_congr (policy_error_withCodes resolved resolvedToo e)
  constructor
  · rintro ⟨policy, cause, accepted, failed, named⟩
    rcases policy_ok_withCodes resolved resolvedToo accepted with ⟨policyToo, acceptedToo⟩
    exact ⟨policyToo, cause, acceptedToo, failed, named⟩
  · rintro ⟨policy, cause, accepted, failed, named⟩
    rcases policy_ok_withCodes resolvedToo back accepted with ⟨policyToo, acceptedToo⟩
    exact ⟨policyToo, cause, acceptedToo, failed, named⟩

theorem policy_withCodes (wider : ∀ k ∈ narrow, k ∈ wide) {policy : Policy}
    (accepted : (s.policy files).result = .ok policy) :
    ∃ other, ((s.withCodes codes).policy files).result = .ok other ∧ other.Covers policy := by
  rcases (s.policy_eq_ok_iff files policy).mp accepted with ⟨libraries, kinds, loaded, found, built⟩
  have same : kinds = narrow := Except.ok.inj (found.symm.trans resolved)
  subst kinds
  rcases Policy.build_covers built wider with ⟨other, rebuilt, covers⟩
  refine ⟨other, ?_, covers⟩
  exact ((s.withCodes codes).policy_eq_ok_iff files other).mpr
    ⟨libraries, wide, loaded, resolvedToo, rebuilt⟩

end Settings

theorem Sieve.Within.hasErrors {one other : Sieve} (within : one.Within other)
    (errors : one.hasErrors = true) : other.hasErrors = true := by
  have fewer := within.errors
  simp only [Sieve.hasErrors, decide_eq_true_eq] at errors ⊢
  omega

theorem Compiled.exitCode_of_within {c d : Compiled} {s t : Settings} (status : c.status = d.status)
    (within : c.sieve.Within d.sieve) (steady : s.expectFailure = false)
    (steadyToo : t.expectFailure = false) (succeeds : (d.outcome s).decide.exitCode = 0) :
    (c.outcome t).decide.exitCode = 0 := by
  rw [exitCode_eq_zero_iff, steady] at succeeds
  rw [exitCode_eq_zero_iff, steadyToo, status]
  constructor
  · intro failed
    exact succeeds.mp (failed.imp_right within.hasErrors)
  · intro expected
    cases expected

/-- Suppressing more kinds everywhere never surfaces more. Let two settings differ only in their codes
for every module, all of which are known, and let the first ones stand for kinds that the second ones
stand for too; and let the compiler report the same and exit with the same status. Then the second run
is rejected exactly where the first one is, for the same reason; what it surfaces is a subsequence of
what the first one does, with no more errors or warnings, and with as many reports in all; and where no
failure is expected and the first run succeeds, the second one does not fail. -/
theorem wider_codes_surface_no_more (s : Settings) (codes : List String) (one other : Backend)
    (colorize recolorize : Bool) (files : FileTree) (narrow wide : KindSet)
    (resolved : s.everywhere = .ok narrow)
    (resolvedToo : (s.withCodes codes).everywhere = .ok wide) (wider : ∀ k ∈ narrow, k ∈ wide)
    (reports : ((s.withCodes codes).compilation other files).diagnostics =
      (s.compilation one files).diagnostics)
    (status : ((s.withCodes codes).compilation other files).status =
      (s.compilation one files).status) :
    (∀ e, (s.sifted one files).result = .error e ↔
      ((s.withCodes codes).sifted other files).result = .error e) ∧
    (∀ c, (s.sifted one files).result = .ok c →
      ∃ d, ((s.withCodes codes).sifted other files).result = .ok d ∧ d.status = c.status ∧
        d.sieve.Within c.sieve) ∧
    (s.expectFailure = false → (run s one colorize files).result = .ok 0 → ∀ code,
      (run (s.withCodes codes) other recolorize files).result = .ok code → code = 0) := by
  have sieves (c : Compiled) (sifted : (s.sifted one files).result = .ok c) :
      ∃ d, ((s.withCodes codes).sifted other files).result = .ok d ∧ d.status = c.status ∧
        d.sieve.Within c.sieve := by
    rcases (s.sifted_eq_ok_iff one files c).mp sifted with ⟨policy, accepted, exited, known⟩
    rcases Settings.policy_withCodes resolved resolvedToo wider accepted with
      ⟨policyToo, acceptedToo, covers⟩
    have within := Sieve.reportAll_within covers s.roots (s.compilation one files).diagnostics
    refine ⟨⟨((s.withCodes codes).freshSieve policyToo).reportAll
      ((s.withCodes codes).compilation other files).diagnostics, c.status⟩, ?_, rfl, ?_⟩
    · exact ((s.withCodes codes).sifted_eq_ok_iff other files _).mpr
        ⟨policyToo, acceptedToo, status.trans exited, rfl⟩
    · rw [reports, known]
      exact within
  refine ⟨Settings.sifted_error_withCodes resolved resolvedToo status, sieves, ?_⟩
  · intro steady succeeded code finished
    rcases s.code_of_sifted one colorize files 0 succeeded with ⟨c, sifted, decided⟩
    rcases (s.withCodes codes).code_of_sifted other recolorize files code finished with
      ⟨d, siftedToo, settled⟩
    rcases sieves c sifted with ⟨e, found, same, within⟩
    have alike : e = d := Except.ok.inj (found.symm.trans siftedToo)
    rw [settled, ← alike]
    exact Compiled.exitCode_of_within same within steady steady decided.symm

def noisyCompiler : Compiler := fun _ files =>
  { files
    diagnostics :=
      [⟨.error, some "JSC_UNREACHABLE_CODE", "unreachable code", some "m.js", none, none, []⟩,
       ⟨.warning, some "JSC_USELESS_CODE", "useless code", some "m.js", none, none, []⟩,
       ⟨.warning, some "JSC_EVAL_USE", "eval", some "n.js", none, none, []⟩]
    status := .ok 0 }

def noisySettings : Settings := { suppressCodes := ["JSC_UNREACHABLE_CODE"] }

theorem noisyCompiler_wider_codes :
    let wider := noisySettings.withCodes [" uselessCode\n"]
    (run noisySettings noisyCompiler true {}).result = .ok 0 ∧
      (run wider noisyCompiler false {}).result = .ok 0 ∧
      ∃ c d, (noisySettings.sifted noisyCompiler {}).result = .ok c ∧
        (wider.sifted noisyCompiler {}).result = .ok d ∧ d.sieve.Within c.sieve ∧
        c.sieve.warnings = 2 ∧ d.sieve.warnings = 1 := by
  intro wider
  have covered : ∀ k ∈ KindSet.ofList [Kind.unreachableCode] ∪ ∅,
      k ∈ KindSet.ofList Group.uselessCode.kinds ∪ ∅ := by
    intro k member
    simp only [KindSet.mem_union, KindSet.mem_ofList, KindSet.not_mem_empty, or_false,
      List.mem_singleton] at member ⊢
    rw [member]
    decide
  have succeeded : (run noisySettings noisyCompiler true {}).result = .ok 0 := by decide +kernel
  have finished : (run wider noisyCompiler false {}).result = .ok 0 := by decide +kernel
  rcases wider_codes_surface_no_more noisySettings [" uselessCode\n"] noisyCompiler noisyCompiler true
    false {} _ _ rfl rfl covered rfl rfl with ⟨_, sieves, _⟩
  rcases sieves _ rfl with ⟨d, found, _, within⟩
  have left : d.sieve.warnings = 1 := by
    cases found
    rfl
  exact ⟨succeeded, finished, _, d, rfl, found, within, rfl, left⟩

end DiagnosticSieve
