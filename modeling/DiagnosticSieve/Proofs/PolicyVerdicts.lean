import DiagnosticSieve.Policy
import DiagnosticSieve.Proofs.ClosureConsistency

namespace DiagnosticSieve

theorem mem_legacyModules_iff (libraries : List Library) (moduleName : String) :
    moduleName ∈ legacyModules libraries ↔
      (∃ lib ∈ libraries, lib.legacy = true ∧ moduleName ∈ lib.modules) ∧
        ¬ ∃ lib ∈ libraries, lib.legacy = false ∧ moduleName ∈ lib.modules := by
  simp [legacyModules, strictModules, Library.strict, and_assoc]

namespace OwnerIndex

/-- The kinds of a module are those of any library that claims it, since all of them agree. -/
theorem mem_kindsOf_iff {index : OwnerIndex} {libraries : List Library}
    (built : (build libraries).result = .ok index) (moduleName : String) (k : Kind) :
    k ∈ index.kindsOf moduleName ↔
      ∃ lib ∈ libraries, lib.claims moduleName = true ∧ k ∈ lib.kinds := by
  obtain ⟨rep, consistent⟩ := build_represents libraries index built
  rw [rep.kindsOf]
  cases found : owner? libraries moduleName with
  | none =>
    have unclaimed := (owner?_eq_none_iff libraries moduleName).mp found
    constructor
    · intro granted
      exact absurd granted (KindSet.not_mem_empty k)
    · intro allowed
      rcases allowed with ⟨lib, member, claimed, _⟩
      rw [unclaimed lib member] at claimed
      cases claimed
  | some owner =>
    obtain ⟨inside, owned⟩ := owner?_mem libraries moduleName owner found
    constructor
    · intro granted
      exact ⟨owner, inside, owned, granted⟩
    · intro allowed
      rcases allowed with ⟨lib, member, claimed, granted⟩
      rw [consistent.agreed lib member owner inside moduleName claimed owned] at granted
      exact granted

end OwnerIndex

namespace Policy

theorem build_eq_ok_iff (libraries : List Library) (everywhere : KindSet) (policy : Policy) :
    (build libraries everywhere).result = .ok policy ↔
      ∃ owners, (OwnerIndex.build libraries).result = .ok owners ∧
        policy = ⟨everywhere, legacyModules libraries, owners⟩ := by
  rw [build, Attempt.result_bind_eq_ok_iff]
  constructor
  · intro success
    rcases success with ⟨owners, built, rest⟩
    cases rest
    exact ⟨owners, built, rfl⟩
  · intro success
    rcases success with ⟨owners, built, rfl⟩
    exact ⟨owners, built, rfl⟩

variable {libraries : List Library} {everywhere : KindSet} {policy : Policy}

theorem everywhere_of_build (built : (build libraries everywhere).result = .ok policy) :
    policy.everywhere = everywhere := by
  obtain ⟨owners, _, rfl⟩ := (build_eq_ok_iff libraries everywhere policy).mp built
  rfl

theorem lenient_of_build (built : (build libraries everywhere).result = .ok policy) :
    policy.lenient = legacyModules libraries := by
  obtain ⟨owners, _, rfl⟩ := (build_eq_ok_iff libraries everywhere policy).mp built
  rfl

theorem isLegacy_iff (built : (build libraries everywhere).result = .ok policy) (moduleName : String) :
    policy.isLegacy moduleName = true ↔
      (∃ lib ∈ libraries, lib.legacy = true ∧ moduleName ∈ lib.modules) ∧
        ¬ ∃ lib ∈ libraries, lib.legacy = false ∧ moduleName ∈ lib.modules := by
  rw [isLegacy, lenient_of_build built, List.contains_iff_mem, mem_legacyModules_iff]

theorem suppresses_iff (built : (build libraries everywhere).result = .ok policy)
    (moduleName : String) (k : Kind) :
    policy.suppresses moduleName k = true ↔
      k ∈ everywhere ∨ policy.isLegacy moduleName = true ∨
        ∃ lib ∈ libraries, lib.claims moduleName = true ∧ k ∈ lib.kinds := by
  obtain ⟨owners, owned, rfl⟩ := (build_eq_ok_iff libraries everywhere policy).mp built
  rw [suppresses, Bool.or_eq_true, Bool.or_eq_true, or_assoc, KindSet.contains_iff_mem,
    KindSet.contains_iff_mem, OwnerIndex.mem_kindsOf_iff owned]

theorem labelOf?_eq (built : (build libraries everywhere).result = .ok policy) (moduleName : String) :
    policy.labelOf? moduleName = (owner? libraries moduleName).map Library.label := by
  obtain ⟨owners, owned, rfl⟩ := (build_eq_ok_iff libraries everywhere policy).mp built
  exact (OwnerIndex.build_represents libraries owners owned).1.labels moduleName

end Policy

def Library.recodeLegacy (codes : Library → List String) (lib : Library) : Library :=
  if lib.legacy then { lib with suppressions := codes lib } else lib

namespace Library

variable (codes : Library → List String) (lib : Library)

@[simp] theorem recodeLegacy_legacy : (lib.recodeLegacy codes).legacy = lib.legacy := by
  cases legacy : lib.legacy <;> simp [recodeLegacy, legacy]

@[simp] theorem recodeLegacy_modules : (lib.recodeLegacy codes).modules = lib.modules := by
  cases legacy : lib.legacy <;> simp [recodeLegacy, legacy]

theorem enter_recodeLegacy (index : OwnerIndex) :
    index.enter (lib.recodeLegacy codes) = index.enter lib := by
  cases legacy : lib.legacy <;> simp [recodeLegacy, OwnerIndex.enter, legacy]

end Library

theorem modules_recodeLegacy (codes : Library → List String) (libraries : List Library)
    (p : Library → Bool) (steady : ∀ lib, p (lib.recodeLegacy codes) = p lib) :
    ((libraries.map (Library.recodeLegacy codes)).filter p).flatMap Library.modules =
      (libraries.filter p).flatMap Library.modules := by
  have same : p ∘ Library.recodeLegacy codes = p := funext steady
  simp only [List.filter_map, same, List.flatMap_map, Library.recodeLegacy_modules]

theorem legacyModules_recodeLegacy (codes : Library → List String) (libraries : List Library) :
    legacyModules (libraries.map (Library.recodeLegacy codes)) = legacyModules libraries := by
  have lenient := modules_recodeLegacy codes libraries Library.legacy fun lib => by simp
  have strict := modules_recodeLegacy codes libraries Library.strict fun lib => by
    simp [Library.strict]
  rw [legacyModules, strictModules, lenient, strict]
  rfl

theorem Policy.build_recodeLegacy (codes : Library → List String) (libraries : List Library)
    (everywhere : KindSet) :
    Policy.build (libraries.map (Library.recodeLegacy codes)) everywhere =
      Policy.build libraries everywhere := by
  have owners : OwnerIndex.build (libraries.map (Library.recodeLegacy codes)) =
      OwnerIndex.build libraries := by
    simp only [OwnerIndex.build, List.foldlM_map, Library.enter_recodeLegacy]
  simp only [Policy.build, owners, legacyModules_recodeLegacy]

/-- A policy follows the rule of three tiers: kinds suppressed everywhere, lenient modules, and codes
of the strict libraries that list the module. What legacy libraries suppress does not matter. -/
theorem policy_follows_three_tiers (libraries : List Library) (everywhere : KindSet) (policy : Policy)
    (built : (Policy.build libraries everywhere).result = .ok policy) :
    (∀ moduleName, policy.isLegacy moduleName = true ↔
      (∃ lib ∈ libraries, lib.legacy = true ∧ moduleName ∈ lib.modules) ∧
        ¬ ∃ lib ∈ libraries, lib.legacy = false ∧ moduleName ∈ lib.modules) ∧
    (∀ moduleName k, policy.suppresses moduleName k = true ↔
      k ∈ everywhere ∨ policy.isLegacy moduleName = true ∨
        ∃ lib ∈ libraries, lib.legacy = false ∧ moduleName ∈ lib.modules ∧
          ∃ code ∈ lib.suppressions, ∃ kinds, kindsOfCode? code = some kinds ∧ k ∈ kinds) ∧
    ∀ codes, Policy.build (libraries.map (Library.recodeLegacy codes)) everywhere =
      Policy.build libraries everywhere := by
  refine ⟨Policy.isLegacy_iff built, ?_, fun codes => Policy.build_recodeLegacy codes libraries everywhere⟩
  intro moduleName k
  rw [Policy.suppresses_iff built]
  simp only [Library.claims_iff, Library.kinds, mem_kindsOfCodes_iff, and_assoc]

/-- Two strict libraries that spell one set of kinds differently, between legacy ones. -/
def overlappingClosure : List Library :=
  [{ label := "//old", modules := ["m", "n"], suppressions := ["visibility", "nope"], legacy := true },
   { label := "//a", modules := ["m"], suppressions := ["uselessCode"] },
   { label := "//b", modules := ["m", "p"], suppressions := ["unreachable_code", "JSC_USELESS_CODE"] },
   { label := "//older", modules := ["m"], legacy := true }]

theorem overlappingClosure_verdicts :
    ∃ policy, (Policy.build overlappingClosure (.ofList [.evalUse])).result = .ok policy ∧
      policy.isLegacy "n" = true ∧ policy.isLegacy "m" = false ∧
      policy.suppresses "m" .unreachableCode = true ∧ policy.suppresses "p" .evalUse = true ∧
      policy.suppresses "m" .privateOverride = false := by
  have rule := policy_follows_three_tiers overlappingClosure (.ofList [.evalUse]) _ rfl
  refine ⟨_, rfl, (rule.1 "n").mpr (by decide), ?_, ?_, ?_, rfl⟩
  · exact Bool.eq_false_iff.mpr fun lenient => absurd ((rule.1 "m").mp lenient).2 (by decide)
  · refine (rule.2.1 "m" .unreachableCode).mpr (.inr (.inr ?_))
    exact ⟨_, List.mem_of_getElem? (i := 2) rfl, rfl, by decide, "unreachable_code", by decide,
      [.unreachableCode], rfl, by decide⟩
  · exact (rule.2.1 "p" .evalUse).mpr (.inl (by decide))

end DiagnosticSieve
