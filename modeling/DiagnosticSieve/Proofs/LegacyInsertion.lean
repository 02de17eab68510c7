import DiagnosticSieve.Proofs.HintedCodes
import DiagnosticSieve.Proofs.PolicyLeniency
import DiagnosticSieve.Proofs.PolicyLocality

namespace DiagnosticSieve

section

variable (before after : List Library) (lib : Library) (legacy : lib.legacy = true)
include legacy

theorem OwnerIndex.build_insert_legacy : build (before ++ lib :: after) = build (before ++ after) := by
  have skip (index : OwnerIndex) : index.enter lib = pure index := by simp [enter, legacy]
  rw [build_append, build_append]
  apply congrArg
  funext index
  rw [List.foldlM_cons, skip, pure_bind]

theorem mem_legacyModules_insert (moduleName : String) :
    moduleName ∈ legacyModules (before ++ lib :: after) ↔
      moduleName ∈ legacyModules (before ++ after) ∨
        moduleName ∈ lib.modules ∧
          ¬ ∃ other ∈ before ++ after, other.legacy = false ∧ moduleName ∈ other.modules := by
  have lenient : ¬ (lib.legacy = false ∧ moduleName ∈ lib.modules) := by simp [legacy]
  rw [mem_legacyModules_iff, mem_legacyModules_iff, exists_mem_middle, exists_mem_middle,
    or_iff_right lenient]
  simp only [legacy, true_and, or_and_right, or_comm]

theorem Policy.build_insert_legacy (everywhere : KindSet) :
    (build (before ++ lib :: after) everywhere).result =
      (build (before ++ after) everywhere).result.map fun policy =>
        { policy with lenient := legacyModules (before ++ lib :: after) } := by
  rw [build, build, OwnerIndex.build_insert_legacy before after lib legacy]
  cases built : (OwnerIndex.build (before ++ after)).result with
  | error e =>
    rw [Attempt.result_bind_of_error _ _ e built, Attempt.result_bind_of_error _ _ e built]
    rfl
  | ok owners =>
    rw [Attempt.result_bind_of_ok _ _ owners built, Attempt.result_bind_of_ok _ _ owners built]
    rfl

end

theorem Policy.agreeOn_of_isLegacy_eq {policy other : Policy} {moduleName : String}
    (everywhere : policy.everywhere = other.everywhere) (owners : policy.owners = other.owners)
    (same : policy.isLegacy moduleName = other.isLegacy moduleName) :
    policy.AgreeOn other moduleName := by
  have label : policy.labelOf? moduleName = other.labelOf? moduleName := by
    rw [labelOf?, labelOf?, owners]
  constructor
  case isLegacy => exact same
  case labelOf? => exact label
  case attribution => rw [attribution, attribution, label]
  case suppresses =>
    intro k
    rw [suppresses, suppresses, same, everywhere, owners]

/-- Legacy libraries only add leniency, and only to modules that no strict library lists. Wherever one
is inserted into a closure, whatever its label, its modules and its codes are: the policy is refused
exactly where it was, with the same error; no label changes, and no verdict on a module that the library
does not list or that a strict one lists; the lenient modules are those there were and those of its own
that no strict library lists; and what is surfaced is a subsequence of what was, with the same texts. -/
theorem legacy_library_only_adds_leniency (before after : List Library) (lib : Library)
    (everywhere : KindSet) (legacy : lib.legacy = true) :
    (∀ e, (Policy.build (before ++ lib :: after) everywhere).result = .error e ↔
      (Policy.build (before ++ after) everywhere).result = .error e) ∧
    ∀ policy, (Policy.build (before ++ after) everywhere).result = .ok policy →
      ∃ extended, (Policy.build (before ++ lib :: after) everywhere).result = .ok extended ∧
        (∀ moduleName, extended.labelOf? moduleName = policy.labelOf? moduleName) ∧
        (∀ moduleName, moduleName ∉ lib.modules ∨
            (∃ other ∈ before ++ after, other.legacy = false ∧ moduleName ∈ other.modules) →
          policy.AgreeOn extended moduleName) ∧
        (∀ moduleName, moduleName ∈ extended.lenient ↔
          moduleName ∈ policy.lenient ∨ moduleName ∈ lib.modules ∧
            ¬ ∃ other ∈ before ++ after, other.legacy = false ∧ moduleName ∈ other.modules) ∧
        ∀ roots ds, ((Sieve.fresh extended roots).reportAll ds).Within
          ((Sieve.fresh policy roots).reportAll ds) := by
  have inserted := Policy.build_insert_legacy before after lib legacy everywhere
  constructor
  · intro e
    rw [inserted]
    cases (Policy.build (before ++ after) everywhere).result <;> simp [Except.map]
  intro policy built
  rw [built] at inserted
  have lenient (moduleName : String) : moduleName ∈ legacyModules (before ++ lib :: after) ↔
      moduleName ∈ policy.lenient ∨ moduleName ∈ lib.modules ∧
        ¬ ∃ other ∈ before ++ after, other.legacy = false ∧ moduleName ∈ other.modules := by
    rw [mem_legacyModules_insert before after lib legacy, Policy.lenient_of_build built]
  refine ⟨{ policy with lenient := legacyModules (before ++ lib :: after) }, inserted, ?_, ?_, lenient,
    ?_⟩
  · intro moduleName
    rfl
  · intro moduleName excluded
    apply Policy.agreeOn_of_isLegacy_eq
    case everywhere => rfl
    case owners => rfl
    case same =>
      rw [Bool.eq_iff_iff, Policy.isLegacy, Policy.isLegacy, List.contains_iff_mem,
        List.contains_iff_mem, lenient]
      constructor
      · exact .inl
      · rintro (old | ⟨listed, unclaimed⟩)
        · exact old
        · exact absurd excluded (not_or_intro (not_not_intro listed) unclaimed)
  · intro roots ds
    apply Sieve.reportAll_within
    apply Policy.covers_of_same_owners
    · rfl
    · intro k suppressed
      exact suppressed
    · intro moduleName old
      exact (lenient moduleName).mpr (.inl old)

/-- A legacy library with unknown codes, behind every other one that lists a module of it. -/
theorem stowaway_only_adds_leniency :
    let stowaway : Library :=
      { label := " ", modules := ["m", "n", "p"], suppressions := ["nope", ""], legacy := true }
    let bystander : Library := { label := "//c", modules := ["q"] }
    ∃ policy extended, (Policy.build (twoTierClosure ++ [bystander]) ∅).result = .ok policy ∧
      (Policy.build (twoTierClosure ++ stowaway :: [bystander]) ∅).result = .ok extended ∧
      policy.AgreeOn extended "m" ∧ policy.isLegacy "p" = false ∧ "p" ∈ extended.lenient ∧
      ((Sieve.fresh extended []).reportAll strayDiagnostics).Within
        ((Sieve.fresh policy []).reportAll strayDiagnostics) := by
  intro stowaway bystander
  rcases (legacy_library_only_adds_leniency twoTierClosure [bystander] stowaway ∅ rfl).2 _ rfl with
    ⟨extended, built, _, agree, lenient, within⟩
  refine ⟨_, extended, rfl, built, agree "m" (.inr ?_), rfl, (lenient "p").mpr (.inr ?_), within _ _⟩
  · decide
  · decide

end DiagnosticSieve
