import DiagnosticSieve.Library.Loading
import DiagnosticSieve.Proofs.PolicyVerdicts
import Mathlib.Data.List.Perm.Basic

namespace DiagnosticSieve

theorem mapM_eq_ok_iff {ε α β : Type} (f : α → Except ε β) (xs : List α) (ys : List β) :
    xs.mapM f = .ok ys ↔ List.Forall₂ (fun x y => f x = .ok y) xs ys := by
  induction xs generalizing ys with
  | nil =>
    rw [List.forall₂_nil_left_iff]
    constructor
    · intro done
      cases done
      rfl
    · intro empty
      rw [empty]
      rfl
  | cons x xs ih =>
    rw [List.mapM_cons, List.forall₂_cons_left_iff]
    constructor
    · intro done
      cases first : f x with
      | error e =>
        rw [first] at done
        cases done
      | ok y =>
        cases rest : xs.mapM f with
        | error e =>
          rw [first, rest] at done
          cases done
        | ok others =>
          rw [first, rest] at done
          cases done
          exact ⟨y, others, rfl, (ih others).mp rest, rfl⟩
    · intro matched
      rcases matched with ⟨y, others, first, rest, rfl⟩
      rw [first, (ih others).mpr rest]
      rfl

namespace Library

variable (files : FileTree)

theorem loadAll_result (paths : List String) :
    (loadAll files paths).result = paths.mapM (load files) := by
  cases loaded : paths.mapM (load files) with
  | error e =>
    rw [loadAll, loaded]
    exact Attempt.result_bind_of_error _ _ e rfl
  | ok libraries =>
    rw [loadAll, loaded]
    rfl

theorem loadAll_perm {paths others : List String} (permuted : paths.Perm others)
    {libraries : List Library} (loaded : (loadAll files paths).result = .ok libraries) :
    ∃ moved, (loadAll files others).result = .ok moved ∧ libraries.Perm moved := by
  rw [loadAll_result, mapM_eq_ok_iff] at loaded
  obtain ⟨moved, each, order⟩ := List.perm_comp_forall₂ permuted.symm loaded
  refine ⟨moved, ?_, order.symm⟩
  rw [loadAll_result, mapM_eq_ok_iff]
  exact each

end Library

variable {libraries moved : List Library}

theorem Consistent.perm (consistent : Consistent libraries) (permuted : libraries.Perm moved) :
    Consistent moved := by
  constructor
  · intro lib member
    exact consistent.known lib (permuted.mem_iff.mpr member)
  · intro a first b second
    exact consistent.agreed a (permuted.mem_iff.mpr first) b (permuted.mem_iff.mpr second)

structure Policy.SameVerdicts (one other : Policy) : Prop where
  isLegacy : ∀ moduleName, one.isLegacy moduleName = other.isLegacy moduleName
  suppresses : ∀ moduleName k, one.suppresses moduleName k = other.suppresses moduleName k

/-- Libraries of a closure that claim the same module have the same label. -/
def SingleLabels (libraries : List Library) : Prop :=
  ∀ a ∈ libraries, ∀ b ∈ libraries, a.legacy = false → b.legacy = false →
    (∃ moduleName, moduleName ∈ a.modules ∧ moduleName ∈ b.modules) → a.label = b.label

theorem exists_mem_congr (permuted : libraries.Perm moved) (p : Library → Prop) :
    (∃ lib ∈ libraries, p lib) ↔ ∃ lib ∈ moved, p lib := by
  simp only [permuted.mem_iff]

namespace Policy

variable {everywhere : KindSet} {policy other : Policy}

theorem build_perm (built : (build libraries everywhere).result = .ok policy)
    (permuted : libraries.Perm moved) : ∃ other, (build moved everywhere).result = .ok other := by
  obtain ⟨owners, owned, _⟩ := (build_eq_ok_iff libraries everywhere policy).mp built
  have consistent := (OwnerIndex.build_represents libraries owners owned).2
  obtain ⟨index, indexed⟩ := (OwnerIndex.build_ok_iff_consistent moved).mpr (consistent.perm permuted)
  exact ⟨_, (build_eq_ok_iff moved everywhere _).mpr ⟨index, indexed, rfl⟩⟩

theorem sameVerdicts_of_perm (built : (build libraries everywhere).result = .ok policy)
    (rebuilt : (build moved everywhere).result = .ok other) (permuted : libraries.Perm moved) :
    policy.SameVerdicts other := by
  have lenient (moduleName : String) : policy.isLegacy moduleName = other.isLegacy moduleName := by
    rw [Bool.eq_iff_iff, isLegacy_iff built, isLegacy_iff rebuilt, exists_mem_congr permuted,
      exists_mem_congr permuted]
  constructor
  · exact lenient
  · intro moduleName k
    rw [Bool.eq_iff_iff, suppresses_iff built, suppresses_iff rebuilt, lenient,
      exists_mem_congr permuted]

theorem labelOf?_of_perm (built : (build libraries everywhere).result = .ok policy)
    (rebuilt : (build moved everywhere).result = .ok other) (permuted : libraries.Perm moved)
    (single : SingleLabels libraries) (moduleName : String) :
    policy.labelOf? moduleName = other.labelOf? moduleName := by
  rw [labelOf?_eq built, labelOf?_eq rebuilt]
  cases first : owner? libraries moduleName with
  | none =>
    have unclaimed := (owner?_eq_none_iff libraries moduleName).mp first
    have free : owner? moved moduleName = none := by
      rw [owner?_eq_none_iff]
      intro lib member
      exact unclaimed lib (permuted.mem_iff.mpr member)
    rw [free]
  | some a =>
    obtain ⟨insideA, claimedA⟩ := owner?_mem libraries moduleName a first
    cases second : owner? moved moduleName with
    | none =>
      have unclaimed := (owner?_eq_none_iff moved moduleName).mp second a
        (permuted.mem_iff.mp insideA)
      rw [claimedA] at unclaimed
      cases unclaimed
    | some b =>
      obtain ⟨insideB, claimedB⟩ := owner?_mem moved moduleName b second
      obtain ⟨strictA, listedA⟩ := (Library.claims_iff a moduleName).mp claimedA
      obtain ⟨strictB, listedB⟩ := (Library.claims_iff b moduleName).mp claimedB
      have same : a.label = b.label := single a insideA b (permuted.mem_iff.mpr insideB) strictA
        strictB ⟨moduleName, listedA, listedB⟩
      simp only [Option.map_some, same]

theorem attribution_of_perm (built : (build libraries everywhere).result = .ok policy)
    (rebuilt : (build moved everywhere).result = .ok other) (permuted : libraries.Perm moved)
    (single : SingleLabels libraries) (moduleName : String) :
    policy.attribution moduleName = other.attribution moduleName := by
  rw [attribution, attribution, labelOf?_of_perm built rebuilt permuted single]

end Policy

end DiagnosticSieve
