import DiagnosticSieve.Proofs.PolicyVerdicts
import DiagnosticSieve.Proofs.SieveInvariant

namespace DiagnosticSieve

def listing (libraries : List Library) (moduleName : String) : List Library :=
  libraries.filter fun lib => moduleName ∈ lib.modules

theorem mem_listing_iff (libraries : List Library) (moduleName : String) (lib : Library) :
    lib ∈ listing libraries moduleName ↔ lib ∈ libraries ∧ moduleName ∈ lib.modules := by
  simp [listing]

/-- A library that does not list the module can be added, removed or changed anywhere. -/
theorem listing_append_cons_of_not_mem (before after : List Library) (lib : Library)
    (moduleName : String) (unlisted : moduleName ∉ lib.modules) :
    listing (before ++ lib :: after) moduleName = listing (before ++ after) moduleName := by
  simp [listing, unlisted]

theorem owner?_listing (libraries : List Library) (moduleName : String) :
    owner? (listing libraries moduleName) moduleName = owner? libraries moduleName := by
  have listed (lib : Library) :
      decide (decide (moduleName ∈ lib.modules) = true ∧ lib.claims moduleName = true) =
        lib.claims moduleName := by
    simp [Library.claims]
  simp only [owner?, listing, List.find?_filter, listed]

variable {libraries others : List Library} {everywhere : KindSet} {policy other : Policy}

theorem exists_listing_congr {moduleName : String}
    (same : listing libraries moduleName = listing others moduleName) (p : Library → Prop) :
    (∃ lib ∈ libraries, p lib ∧ moduleName ∈ lib.modules) ↔
      ∃ lib ∈ others, p lib ∧ moduleName ∈ lib.modules := by
  have inside (closure : List Library) :
      (∃ lib ∈ closure, p lib ∧ moduleName ∈ lib.modules) ↔
        ∃ lib ∈ listing closure moduleName, p lib := by
    simp only [mem_listing_iff]
    constructor
    · intro ⟨lib, member, holds, listed⟩
      exact ⟨lib, ⟨member, listed⟩, holds⟩
    · intro ⟨lib, ⟨member, listed⟩, holds⟩
      exact ⟨lib, member, holds, listed⟩
  rw [inside, inside, same]

namespace Policy

structure AgreeOn (one other : Policy) (moduleName : String) : Prop where
  isLegacy : one.isLegacy moduleName = other.isLegacy moduleName
  labelOf? : one.labelOf? moduleName = other.labelOf? moduleName
  attribution : one.attribution moduleName = other.attribution moduleName
  suppresses : ∀ k, one.suppresses moduleName k = other.suppresses moduleName k

theorem agreeOn_of_listing_eq (built : (build libraries everywhere).result = .ok policy)
    (rebuilt : (build others everywhere).result = .ok other) {moduleName : String}
    (same : listing libraries moduleName = listing others moduleName) :
    policy.AgreeOn other moduleName := by
  have lenient : policy.isLegacy moduleName = other.isLegacy moduleName := by
    rw [Bool.eq_iff_iff, isLegacy_iff built, isLegacy_iff rebuilt]
    apply and_congr
    · exact exists_listing_congr same fun lib => lib.legacy = true
    · exact not_congr (exists_listing_congr same fun lib => lib.legacy = false)
  have label : policy.labelOf? moduleName = other.labelOf? moduleName := by
    rw [labelOf?_eq built, labelOf?_eq rebuilt, ← owner?_listing libraries, same, owner?_listing]
  constructor
  · exact lenient
  · exact label
  · rw [attribution, attribution, label]
  · intro k
    have granted := exists_listing_congr same fun lib => lib.legacy = false ∧ k ∈ lib.kinds
    simp only [and_right_comm] at granted
    rw [Bool.eq_iff_iff, suppresses_iff built, suppresses_iff rebuilt, lenient]
    simp only [Library.claims_iff, granted]

namespace AgreeOn

variable {roots : List String} {d : Diagnostic}

theorem silences_iff (agree : policy.AgreeOn other (d.moduleIn roots)) :
    policy.Silences roots d ↔ other.Silences roots d := by
  simp only [silences_iff_kind?, agree.isLegacy, agree.suppresses]

theorem surface_eq (agree : policy.AgreeOn other (d.moduleIn roots)) :
    (Sieve.fresh policy roots).surface d = (Sieve.fresh other roots).surface d := by
  have text : d.render policy (d.moduleIn roots) = d.render other (d.moduleIn roots) := by
    rw [Diagnostic.render, Diagnostic.render, agree.attribution]
  exact congrArg (Surfaced.mk d.severity (d.moduleIn roots)) text

end AgreeOn

end Policy

namespace Sieve

def surfacedIn (s : Sieve) (moduleName : String) : List Surfaced :=
  s.surfaced.filter fun x => x.moduleName = moduleName

variable (roots : List String) (ds : List Diagnostic) (moduleName : String)

theorem surfacedIn_reportAll_fresh (policy : Policy) :
    ((fresh policy roots).reportAll ds).surfacedIn moduleName =
      ((ds.filter fun d => d.moduleIn roots = moduleName).filter fun d =>
        ¬ policy.Silences roots d).map (fresh policy roots).surface := by
  rw [reportAll_fresh, surfacedIn, Policy.audible, List.filter_map, List.filter_filter,
    List.filter_filter]
  apply congrArg
  apply List.filter_congr
  intro d _
  exact Bool.and_comm _ _

theorem surfacedIn_congr (agree : policy.AgreeOn other moduleName) :
    ((fresh policy roots).reportAll ds).surfacedIn moduleName =
      ((fresh other roots).reportAll ds).surfacedIn moduleName := by
  have place (d : Diagnostic) (member : d ∈ ds.filter fun d => d.moduleIn roots = moduleName) :
      policy.AgreeOn other (d.moduleIn roots) := by
    rw [of_decide_eq_true (List.mem_filter.mp member).2]
    exact agree
  have through : ((ds.filter fun d => d.moduleIn roots = moduleName).filter fun d =>
        ¬ policy.Silences roots d) =
      (ds.filter fun d => d.moduleIn roots = moduleName).filter fun d =>
        ¬ other.Silences roots d := by
    apply List.filter_congr
    intro d member
    simp only [(place d member).silences_iff]
  rw [surfacedIn_reportAll_fresh, surfacedIn_reportAll_fresh, through]
  apply List.map_congr_left
  intro d member
  exact (place d (List.mem_filter.mp member).1).surface_eq

theorem getElem?_answers (s : Sieve) (i : Nat) (d : Diagnostic) (found : ds[i]? = some d) :
    (s.answers ds)[i]? = some (decide (¬ s.policy.Silences s.roots d)) := by
  rw [answers_eq, suppresses_eq_silences, List.getElem?_map, found]
  simp

end Sieve

/-- Policies with the same kinds suppressed everywhere, built from closures that differ only in
libraries that do not list a module, agree on that module: on its leniency, its label, its attribution
and every kind. So the diagnostics of the module are surfaced or not alike, with the same texts. -/
theorem policies_agree_on_equally_listed_module (libraries others : List Library)
    (everywhere : KindSet) (policy other : Policy)
    (built : (Policy.build libraries everywhere).result = .ok policy)
    (rebuilt : (Policy.build others everywhere).result = .ok other) (moduleName : String)
    (same : listing libraries moduleName = listing others moduleName) :
    policy.AgreeOn other moduleName ∧
    ∀ (roots : List String) (ds : List Diagnostic),
      ((Sieve.fresh policy roots).reportAll ds).surfacedIn moduleName =
          ((Sieve.fresh other roots).reportAll ds).surfacedIn moduleName ∧
        ∀ (i : Nat) (d : Diagnostic), ds[i]? = some d → d.moduleIn roots = moduleName →
          ((Sieve.fresh policy roots).answers ds)[i]? =
            ((Sieve.fresh other roots).answers ds)[i]? := by
  have agree := Policy.agreeOn_of_listing_eq built rebuilt same
  refine ⟨agree, fun roots ds => ⟨Sieve.surfacedIn_congr roots ds moduleName agree, ?_⟩⟩
  intro i d found place
  rw [← place] at agree
  rw [Sieve.getElem?_answers ds _ i d found, Sieve.getElem?_answers ds _ i d found]
  exact congrArg some (decide_eq_decide.mpr (not_congr agree.silences_iff))

/-- A module that a strict and a legacy library list, the legacy one with another module beside it. -/
def twoTierClosure : List Library :=
  [{ label := "//old", modules := ["m", "n"], legacy := true },
   { label := "//a", modules := ["m"], suppressions := ["uselessCode"] }]

def strayDiagnostics : List Diagnostic :=
  [⟨.error, some "JSC_EVAL_USE", "eval", some "m.js", none, none, []⟩,
   ⟨.error, some "JSC_EVAL_USE", "eval", some "n.js", none, none, []⟩,
   ⟨.warning, some "JSC_UNREACHABLE_CODE", "unreachable code", some "m.js", none, none, []⟩]

theorem twoTierClosure_extended :
    let newcomer : Library := { label := "//b", modules := ["n"], suppressions := ["es5Strict"] }
    ∃ policy other, (Policy.build twoTierClosure ∅).result = .ok policy ∧
      (Policy.build (twoTierClosure ++ [newcomer]) ∅).result = .ok other ∧
      policy.isLegacy "n" = true ∧ other.isLegacy "n" = false ∧ policy.AgreeOn other "m" ∧
      ((Sieve.fresh policy []).reportAll strayDiagnostics).surfacedIn "m" =
        ((Sieve.fresh other []).reportAll strayDiagnostics).surfacedIn "m" := by
  intro newcomer
  have unlisted : "m" ∉ newcomer.modules := by decide
  have same := listing_append_cons_of_not_mem twoTierClosure [] newcomer "m" unlisted
  rw [List.append_nil] at same
  have alike := policies_agree_on_equally_listed_module twoTierClosure (twoTierClosure ++ [newcomer])
    ∅ _ _ rfl rfl "m" same.symm
  exact ⟨_, _, rfl, rfl, by decide, by decide, alike.1, (alike.2 [] strayDiagnostics).1⟩

end DiagnosticSieve
