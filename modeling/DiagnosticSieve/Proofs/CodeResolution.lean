import DiagnosticSieve.Library
import DiagnosticSieve.SuppressionCode

namespace DiagnosticSieve

def kindsOfCodes (codes : List String) : KindSet :=
  ⟨fun k => codes.any fun code => ((kindsOfCode? code).getD []).contains k⟩

theorem mem_kindsOfCodes_iff (k : Kind) (codes : List String) :
    k ∈ kindsOfCodes codes ↔ ∃ code ∈ codes, ∃ kinds, kindsOfCode? code = some kinds ∧ k ∈ kinds := by
  rw [kindsOfCodes, KindSet.mem_mk, List.any_eq_true]
  constructor
  · intro present
    rcases present with ⟨code, member, granted⟩
    cases found : kindsOfCode? code with
    | none => simp [found] at granted
    | some kinds => exact ⟨code, member, kinds, found, by simpa [found] using granted⟩
  · intro present
    rcases present with ⟨code, member, kinds, found, granted⟩
    exact ⟨code, member, by simpa [found] using granted⟩

theorem kindsOfCodes_cons (code : String) (codes : List String) (kinds : List Kind)
    (found : kindsOfCode? code = some kinds) :
    kindsOfCodes (code :: codes) = KindSet.ofList kinds ∪ kindsOfCodes codes := by
  apply KindSet.eq_of_mem_iff
  intro k
  simp [mem_kindsOfCodes_iff, found]

theorem resolveCodes_of_known (codes : List String)
    (known : ∀ code ∈ codes, kindsOfCode? code ≠ none) :
    resolveCodes codes = .ok (kindsOfCodes codes) := by
  induction codes with
  | nil => rfl
  | cons code codes ih =>
    have rest := ih fun other member => known other (List.mem_cons_of_mem code member)
    cases found : kindsOfCode? code with
    | none => exact absurd found (known code List.mem_cons_self)
    | some kinds => simp [resolveCodes, found, rest, Except.map, kindsOfCodes_cons code codes kinds found]

/-- A list that does not resolve names the first code that is not known. -/
theorem resolveCodes_of_unknown (before : List String) (code : String) (after : List String)
    (known : ∀ other ∈ before, kindsOfCode? other ≠ none) (unknown : kindsOfCode? code = none) :
    resolveCodes (before ++ code :: after) = .error code := by
  induction before with
  | nil => simp [resolveCodes, unknown]
  | cons other before ih =>
    have rest := ih fun item member => known item (List.mem_cons_of_mem other member)
    cases found : kindsOfCode? other with
    | none => exact absurd found (known other List.mem_cons_self)
    | some kinds => simp [resolveCodes, found, rest, Except.map]

theorem known_or_first_unknown (codes : List String) :
    (∀ code ∈ codes, kindsOfCode? code ≠ none) ∨
      ∃ before code after, codes = before ++ code :: after ∧
        (∀ other ∈ before, kindsOfCode? other ≠ none) ∧ kindsOfCode? code = none := by
  induction codes with
  | nil => simp
  | cons code codes ih =>
    by_cases unknown : kindsOfCode? code = none
    · exact .inr ⟨[], code, codes, rfl, by simp, unknown⟩
    rcases ih with known | ⟨before, other, after, rfl, known, missing⟩
    · exact .inl (by simpa [unknown] using known)
    · exact .inr ⟨code :: before, other, after, rfl, by simpa [unknown] using known, missing⟩

namespace Library

def kinds (lib : Library) : KindSet := kindsOfCodes lib.suppressions

def claims (lib : Library) (moduleName : String) : Bool :=
  lib.strict && lib.modules.contains moduleName

theorem strict_eq_true_iff (lib : Library) : lib.strict = true ↔ lib.legacy = false := by
  simp [strict]

theorem claims_iff (lib : Library) (moduleName : String) :
    lib.claims moduleName = true ↔ lib.legacy = false ∧ moduleName ∈ lib.modules := by
  simp [claims, strict]

end Library

end DiagnosticSieve
