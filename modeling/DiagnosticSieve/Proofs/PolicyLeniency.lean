import DiagnosticSieve.Proofs.PolicyVerdicts
import DiagnosticSieve.Proofs.SieveInvariant
import Mathlib.Data.List.Basic

namespace DiagnosticSieve

namespace Policy

/-- A policy suppresses whatever another one does, and attributes modules as that one does. -/
structure Covers (wide narrow : Policy) : Prop where
  isLegacy : ∀ moduleName, narrow.isLegacy moduleName = true → wide.isLegacy moduleName = true
  suppresses : ∀ moduleName k,
    narrow.suppresses moduleName k = true → wide.suppresses moduleName k = true
  attribution : ∀ moduleName, wide.attribution moduleName = narrow.attribution moduleName

theorem covers_of_same_owners {wide narrow : Policy} (owners : wide.owners = narrow.owners)
    (everywhere : ∀ k ∈ narrow.everywhere, k ∈ wide.everywhere)
    (lenient : ∀ moduleName ∈ narrow.lenient, moduleName ∈ wide.lenient) : wide.Covers narrow := by
  have isLegacy (moduleName : String) (before : narrow.isLegacy moduleName = true) :
      wide.isLegacy moduleName = true := by
    rw [Policy.isLegacy, List.contains_iff_mem] at before ⊢
    exact lenient moduleName before
  constructor
  case isLegacy => exact isLegacy
  case suppresses =>
    intro moduleName k suppressed
    simp only [Policy.suppresses, Bool.or_eq_true, owners] at suppressed ⊢
    rcases suppressed with (wherever | before) | listed
    · exact .inl (.inl (everywhere k wherever))
    · exact .inl (.inr (isLegacy moduleName before))
    · exact .inr listed
  case attribution =>
    intro moduleName
    simp only [attribution, labelOf?, owners]

namespace Covers

variable {wide narrow : Policy} (covers : wide.Covers narrow) (roots : List String)
include covers

theorem silences {d : Diagnostic} (silenced : narrow.Silences roots d) : wide.Silences roots d := by
  rcases silenced with ⟨key, k, keyed, known, suppressed⟩ | ⟨unknown, lenient⟩
  · exact .inl ⟨key, k, keyed, known, covers.suppresses _ k suppressed⟩
  · exact .inr ⟨unknown, covers.isLegacy _ lenient⟩

theorem audible_sublist (ds : List Diagnostic) :
    (wide.audible roots ds).Sublist (narrow.audible roots ds) := by
  apply List.monotone_filter_right
  intro d audible
  rw [decide_eq_true_iff] at audible ⊢
  intro silenced
  exact audible (covers.silences roots silenced)

theorem surface_eq : (Sieve.fresh wide roots).surface = (Sieve.fresh narrow roots).surface := by
  funext d
  have owner := covers.attribution (d.moduleIn roots)
  have text : d.render wide (d.moduleIn roots) = d.render narrow (d.moduleIn roots) := by
    rw [Diagnostic.render, Diagnostic.render, owner]
  exact congrArg (Surfaced.mk d.severity (d.moduleIn roots)) text

end Covers

end Policy

namespace Sieve

/-- A sieve surfaced a part of what another one did, in the same order and with the same texts, and
suppressed the rest of it too. -/
structure Within (one other : Sieve) : Prop where
  surfaced : one.surfaced.Sublist other.surfaced
  errors : one.errors ≤ other.errors
  warnings : one.warnings ≤ other.warnings
  total : one.surfaced.length + one.suppressed = other.surfaced.length + other.suppressed

theorem length_surfaced_add_suppressed (policy : Policy) (roots : List String)
    (ds : List Diagnostic) :
    ((fresh policy roots).reportAll ds).surfaced.length +
      ((fresh policy roots).reportAll ds).suppressed = ds.length := by
  rw [reportAll_fresh, List.length_map, ← surfacing_fresh]
  exact length_surfacing_add_length_holding _ ds

theorem reportAll_within {wide narrow : Policy} (covers : wide.Covers narrow) (roots : List String)
    (ds : List Diagnostic) :
    ((fresh wide roots).reportAll ds).Within ((fresh narrow roots).reportAll ds) := by
  have through := covers.audible_sublist roots ds
  constructor
  case surfaced =>
    rw [reportAll_fresh, reportAll_fresh, covers.surface_eq roots]
    exact through.map _
  case errors =>
    rw [reportAll_fresh, reportAll_fresh]
    exact through.countP_le
  case warnings =>
    rw [reportAll_fresh, reportAll_fresh]
    exact through.countP_le
  case total =>
    rw [length_surfaced_add_suppressed, length_surfaced_add_suppressed]

end Sieve

end DiagnosticSieve
