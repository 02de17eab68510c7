import DiagnosticSieve.Library.Loading
import DiagnosticSieve.Library.Printer
import DiagnosticSieve.Proofs.CodeSpellings
import DiagnosticSieve.Proofs.PolicyVerdicts
import DiagnosticSieve.Proofs.SieveInvariant

namespace DiagnosticSieve

theorem Diagnostic.moduleIn_of_fileless (d : Diagnostic) (roots : List String)
    (fileless : d.file = none) : d.moduleIn roots = "" := by
  rw [moduleIn, fileless]
  rfl

theorem Diagnostic.kind?_of_key (d : Diagnostic) (k : Kind) (keyed : d.key = some k.key) :
    d.kind? = some k := by
  rw [kind?, keyed, Option.bind_some, Kind.ofKey?_key]

namespace Policy

variable {libraries : List Library} {everywhere : KindSet} {policy : Policy}

/-- Whether a policy has nothing to say of the module without a name: it is not lenient, and no kinds are
suppressed in it but those that are suppressed everywhere. -/
def SparesNameless (policy : Policy) : Prop :=
  policy.isLegacy "" = false ∧ ∀ k, policy.suppresses "" k = true ↔ k ∈ policy.everywhere

theorem silences_fileless_iff (roots : List String) (d : Diagnostic) (fileless : d.file = none) :
    policy.Silences roots d ↔
      policy.isLegacy "" = true ∨ ∃ k, d.kind? = some k ∧ policy.suppresses "" k = true := by
  rw [silences_iff_kind?, d.moduleIn_of_fileless roots fileless]
  cases known : d.kind? with
  | none => simp
  | some k =>
    have lenient (legacy : policy.isLegacy "" = true) : policy.suppresses "" k = true := by
      simp [suppresses, legacy]
    simpa using lenient

theorem sparesNameless_iff (roots : List String) :
    policy.SparesNameless ↔
      ∀ d : Diagnostic, d.file = none →
        (policy.Silences roots d ↔ ∃ k, d.kind? = some k ∧ k ∈ policy.everywhere) := by
  constructor
  · intro ⟨strict, kinds⟩ d fileless
    rw [silences_fileless_iff roots d fileless, strict]
    simp [kinds]
  · intro global
    have strict : policy.isLegacy "" = false := by
      apply Bool.eq_false_iff.mpr
      intro lenient
      -- A diagnostic without a key has no kind that could be suppressed everywhere.
      have silenced := (silences_fileless_iff roots ⟨.error, none, "", none, none, none, []⟩ rfl).mpr
        (.inl lenient)
      obtain ⟨k, known, _⟩ := (global _ rfl).mp silenced
      cases known
    refine ⟨strict, ?_⟩
    intro k
    have verdict := global ⟨.error, some k.key, "", none, none, none, []⟩ rfl
    rw [silences_fileless_iff roots _ rfl, strict, Diagnostic.kind?_of_key _ k rfl] at verdict
    simpa using verdict

theorem sparesNameless_iff_libraries (built : (build libraries everywhere).result = .ok policy) :
    policy.SparesNameless ↔
      ((∃ lib ∈ libraries, lib.legacy = true ∧ "" ∈ lib.modules) →
        ∃ lib ∈ libraries, lib.legacy = false ∧ "" ∈ lib.modules) ∧
      ∀ lib ∈ libraries, lib.legacy = false → "" ∈ lib.modules → ∀ k ∈ lib.kinds, k ∈ everywhere := by
  have strict : policy.isLegacy "" = false ↔
      ((∃ lib ∈ libraries, lib.legacy = true ∧ "" ∈ lib.modules) →
        ∃ lib ∈ libraries, lib.legacy = false ∧ "" ∈ lib.modules) := by
    rw [← Bool.not_eq_true, isLegacy_iff built, not_and, not_not]
  rw [SparesNameless, everywhere_of_build built, ← strict]
  refine and_congr_right fun unlenient => ?_
  constructor
  · intro verdict lib member strictly listed k allowed
    refine (verdict k).mp ((suppresses_iff built "" k).mpr (.inr (.inr ⟨lib, member, ?_, allowed⟩)))
    exact (Library.claims_iff lib "").mpr ⟨strictly, listed⟩
  · intro within k
    rw [suppresses_iff built, unlenient]
    constructor
    · intro reason
      rcases reason with global | lenient | ⟨lib, member, claimed, allowed⟩
      · exact global
      · cases lenient
      · obtain ⟨strictly, listed⟩ := (Library.claims_iff lib "").mp claimed
        exact within lib member strictly listed k allowed
    · exact .inl

/-- Which libraries silence diagnostics without a file. -/
theorem silences_fileless_iff_libraries (built : (build libraries everywhere).result = .ok policy)
    (roots : List String) (d : Diagnostic) (fileless : d.file = none) :
    policy.Silences roots d ↔
      (∃ k, d.kind? = some k ∧ k ∈ everywhere) ∨
      ((∃ lib ∈ libraries, lib.legacy = true ∧ "" ∈ lib.modules) ∧
        ¬ ∃ lib ∈ libraries, lib.legacy = false ∧ "" ∈ lib.modules) ∨
      ∃ k, d.kind? = some k ∧ ∃ lib ∈ libraries, lib.legacy = false ∧ "" ∈ lib.modules ∧
        k ∈ lib.kinds := by
  rw [silences_fileless_iff roots d fileless, ← isLegacy_iff built]
  simp only [suppresses_iff built, Library.claims_iff, and_assoc]
  constructor
  · intro held
    rcases held with lenient | ⟨k, known, here | lenient | itemised⟩
    · exact .inr (.inl lenient)
    · exact .inl ⟨k, known, here⟩
    · exact .inr (.inl lenient)
    · exact .inr (.inr ⟨k, known, itemised⟩)
  · intro reason
    rcases reason with ⟨k, known, here⟩ | lenient | ⟨k, known, itemised⟩
    · exact .inr ⟨k, known, .inl here⟩
    · exact .inl lenient
    · exact .inr ⟨k, known, .inr (.inr itemised)⟩

end Policy

/-- A diagnostic without a file belongs to the module without a name. It is suppressed if its kind is
suppressed everywhere, and else just where libraries list that module, as lenient or with a code for the
kind. Only the first ever happens exactly if the policy spares that module. It does where no library lists
it, and the libraries that may list it otherwise are told. -/
theorem fileless_judged_everywhere_iff (libraries : List Library) (everywhere : KindSet) (s : Sieve)
    (built : (Policy.build libraries everywhere).result = .ok s.policy) :
    (∀ d : Diagnostic, d.file = none → d.moduleIn s.roots = "" ∧
      ((s.offer d).1 = false ↔
        (∃ k, d.kind? = some k ∧ k ∈ everywhere) ∨
        ((∃ lib ∈ libraries, lib.legacy = true ∧ "" ∈ lib.modules) ∧
          ¬ ∃ lib ∈ libraries, lib.legacy = false ∧ "" ∈ lib.modules) ∨
        ∃ k, d.kind? = some k ∧ ∃ lib ∈ libraries, lib.legacy = false ∧ "" ∈ lib.modules ∧
          k ∈ lib.kinds)) ∧
    ((∀ d : Diagnostic, d.file = none →
        ((s.offer d).1 = false ↔ ∃ k, d.kind? = some k ∧ k ∈ everywhere)) ↔
      s.policy.SparesNameless) ∧
    (s.policy.SparesNameless ↔
      ((∃ lib ∈ libraries, lib.legacy = true ∧ "" ∈ lib.modules) →
        ∃ lib ∈ libraries, lib.legacy = false ∧ "" ∈ lib.modules) ∧
      ∀ lib ∈ libraries, lib.legacy = false → "" ∈ lib.modules →
        ∀ k ∈ lib.kinds, k ∈ everywhere) ∧
    ((∀ lib ∈ libraries, "" ∉ lib.modules) →
      s.policy.SparesNameless ∧
      ∀ d : Diagnostic, d.file = none →
        ((s.offer d).1 = false ↔ ∃ k, d.kind? = some k ∧ k ∈ everywhere)) := by
  have answer (d : Diagnostic) : (s.offer d).1 = false ↔ s.policy.Silences s.roots d := by
    rw [s.offer_answer, Bool.not_eq_false', s.suppresses_iff_silences]
  have global : s.policy.SparesNameless ↔ ∀ d : Diagnostic, d.file = none →
      (s.policy.Silences s.roots d ↔ ∃ k, d.kind? = some k ∧ k ∈ s.policy.everywhere) :=
    Policy.sparesNameless_iff s.roots
  have listed := Policy.sparesNameless_iff_libraries built
  simp only [Policy.everywhere_of_build built, ← answer] at global
  refine ⟨?_, global.symm, listed, ?_⟩
  · intro d fileless
    refine ⟨d.moduleIn_of_fileless s.roots fileless, ?_⟩
    rw [answer, Policy.silences_fileless_iff_libraries built s.roots d fileless]
  · intro unlisted
    have spared := listed.mpr ⟨fun ⟨lib, member, _, nameless⟩ => absurd nameless (unlisted lib member),
      fun lib member _ nameless => absurd nameless (unlisted lib member)⟩
    exact ⟨spared, global.mp spared⟩

def namedClosure : List Library :=
  [{ label := "//old", modules := ["m"], legacy := true },
   { label := "//a", modules := ["n"], suppressions := ["checkTypes"] }]

def evalWarning : Diagnostic := ⟨.warning, some "eval_use", "eval", none, none, none, []⟩

def outOfMemory : Diagnostic := ⟨.error, none, "out of memory", none, none, none, []⟩

theorem namedClosure_judges_everywhere :
    ∃ policy, (Policy.build namedClosure (.ofList [.evalUse])).result = .ok policy ∧
      (({ policy, roots := ["src"] } : Sieve).offer evalWarning).1 = false ∧
      (({ policy, roots := ["src"] } : Sieve).offer outOfMemory).1 ≠ false := by
  obtain ⟨policy, built⟩ : ∃ policy,
      (Policy.build namedClosure (.ofList [.evalUse])).result = .ok policy := ⟨_, rfl⟩
  obtain ⟨_, _, _, unlisted⟩ := fileless_judged_everywhere_iff namedClosure (.ofList [.evalUse])
    { policy, roots := ["src"] } built
  have judged := (unlisted (by decide)).2
  refine ⟨policy, built, ?_, ?_⟩
  · exact (judged evalWarning rfl).mpr ⟨.evalUse, by decide, by decide⟩
  · intro held
    obtain ⟨k, known, _⟩ := (judged outOfMemory rfl).mp held
    cases known

def namelessLibrary : Library := { label := "//old", modules := [""], legacy := true }

/-- The library is loaded like any other, and hides an error that has no file and no kind. -/
theorem nameless_module_hides_error :
    Library.ofText "old.json" namelessLibrary.print = .ok namelessLibrary ∧
      ∃ policy, (Policy.build [namelessLibrary] ∅).result = .ok policy ∧
        policy.isLegacy "" = true ∧ outOfMemory.file = none ∧
        (({ policy, roots := [] } : Sieve).offer outOfMemory).1 = false ∧
        ¬ ∃ k, outOfMemory.kind? = some k ∧ k ∈ (∅ : KindSet) := by
  have loaded : Library.ofText "old.json" namelessLibrary.print = .ok namelessLibrary := by
    decide +kernel
  obtain ⟨policy, built⟩ : ∃ policy, (Policy.build [namelessLibrary] ∅).result = .ok policy := ⟨_, rfl⟩
  have lenient : policy.isLegacy "" = true := by
    rw [Policy.isLegacy_iff built]
    decide
  have hidden : (({ policy, roots := [] } : Sieve).offer outOfMemory).1 = false := by
    rw [Sieve.offer_answer, Bool.not_eq_false', Sieve.suppresses_iff_silences,
      Policy.silences_fileless_iff [] outOfMemory rfl]
    exact .inl lenient
  refine ⟨loaded, policy, built, lenient, rfl, hidden, ?_⟩
  intro global
  obtain ⟨k, known, _⟩ := global
  cases known

end DiagnosticSieve
