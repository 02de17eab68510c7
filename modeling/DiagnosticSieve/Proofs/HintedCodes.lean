import DiagnosticSieve.Proofs.CodeSpellings
import DiagnosticSieve.Proofs.PolicyVerdicts
import DiagnosticSieve.Proofs.SieveReports

namespace DiagnosticSieve

open Text

theorem Kind.mem_of_hinted (k : Kind) (code : String) (hinted : code ∈ [k.key, k.group.name]) :
    ∃ kinds, kindsOfCode? code = some kinds ∧ k ∈ kinds := by
  simp only [List.mem_cons, List.not_mem_nil, or_false] at hinted
  rcases hinted with rfl | rfl
  · exact ⟨[k], kindsOfCode?_key k, List.mem_singleton_self k⟩
  · exact ⟨k.group.kinds, kindsOfCode?_name k.group, k.mem_kinds_group⟩

namespace Library

def suppressing (lib : Library) (code : String) : Library :=
  { lib with suppressions := lib.suppressions ++ [code] }

variable (lib : Library) (code : String)

@[simp] theorem suppressing_legacy : (lib.suppressing code).legacy = lib.legacy := rfl

@[simp] theorem suppressing_modules : (lib.suppressing code).modules = lib.modules := rfl

@[simp] theorem suppressing_claims (moduleName : String) :
    (lib.suppressing code).claims moduleName = lib.claims moduleName := rfl

theorem mem_kinds_suppressing (k : Kind) :
    k ∈ (lib.suppressing code).kinds ↔
      k ∈ lib.kinds ∨ ∃ kinds, kindsOfCode? code = some kinds ∧ k ∈ kinds := by
  simp only [kinds, suppressing, mem_kindsOfCodes_iff, List.mem_append, List.mem_singleton,
    or_and_right, exists_or, exists_eq_left]

end Library

/-- No module is listed by two strict libraries of a closure. -/
def SoleOwners (libraries : List Library) : Prop :=
  libraries.Pairwise fun a b =>
    a.legacy = false → b.legacy = false → ∀ moduleName ∈ a.modules, moduleName ∉ b.modules

section

variable {before after : List Library} {lib : Library}

theorem exists_mem_middle (p : Library → Prop) :
    (∃ other ∈ before ++ lib :: after, p other) ↔ p lib ∨ ∃ other ∈ before ++ after, p other := by
  simp only [List.mem_append, List.mem_cons, or_and_right, exists_or, exists_eq_left]
  exact or_left_comm

theorem SoleOwners.unclaimed (sole : SoleOwners (before ++ lib :: after)) (moduleName : String)
    (claimed : lib.claims moduleName = true) :
    ∀ other ∈ before ++ after, other.claims moduleName = false := by
  obtain ⟨strict, listed⟩ := (Library.claims_iff lib moduleName).mp claimed
  obtain ⟨_, behind, across⟩ := List.pairwise_append.mp sole
  intro other member
  apply Bool.eq_false_iff.mpr
  intro theirs
  obtain ⟨strictToo, listedToo⟩ := (Library.claims_iff other moduleName).mp theirs
  rcases List.mem_append.mp member with front | back
  · exact across other front lib List.mem_cons_self strictToo strict moduleName listedToo listed
  · exact (List.pairwise_cons.mp behind).1 other back strict strictToo moduleName listed listedToo

theorem SoleOwners.owner?_eq (sole : SoleOwners (before ++ lib :: after)) (moduleName : String)
    (claimed : lib.claims moduleName = true) :
    owner? (before ++ lib :: after) moduleName = some lib := by
  have free : owner? before moduleName = none := by
    rw [owner?_eq_none_iff]
    intro other member
    exact sole.unclaimed moduleName claimed other (List.mem_append_left after member)
  have first : owner? (lib :: after) moduleName = some lib := List.find?_cons_of_pos claimed
  rw [owner?_append, free, first, Option.none_or]

theorem Consistent.suppressing (consistent : Consistent (before ++ lib :: after))
    (sole : SoleOwners (before ++ lib :: after)) (code : String) (known : kindsOfCode? code ≠ none) :
    Consistent (before ++ lib.suppressing code :: after) := by
  have present (other : Library) (member : other ∈ before ++ after) :
      other ∈ before ++ lib :: after := by
    rw [List.mem_append, List.mem_cons]
    exact (List.mem_append.mp member).imp_right .inr
  have split (other : Library) (member : other ∈ before ++ lib.suppressing code :: after) :
      other = lib.suppressing code ∨ other ∈ before ++ after := by
    rw [List.mem_append, List.mem_cons] at member
    rw [List.mem_append]
    exact or_left_comm.mp member
  constructor
  · intro other member strict listed item inside
    rcases split other member with rfl | rest
    · have own : lib ∈ before ++ lib :: after := List.mem_append_right _ List.mem_cons_self
      rcases List.mem_append.mp inside with old | new
      · exact consistent.known lib own strict listed item old
      · rw [List.mem_singleton.mp new]
        exact known
    · exact consistent.known other (present other rest) strict listed item inside
  · intro a first b second moduleName claimedA claimedB
    rcases split a first with rfl | restA <;> rcases split b second with rfl | restB
    · rfl
    · rw [sole.unclaimed moduleName claimedA b restB] at claimedB
      cases claimedB
    · rw [sole.unclaimed moduleName claimedB a restA] at claimedA
      cases claimedA
    · exact consistent.agreed a (present a restA) b (present b restB) moduleName claimedA claimedB

namespace Policy

variable {everywhere : KindSet} {policy edited : Policy} {code : String}

theorem build_suppressing (built : (build (before ++ lib :: after) everywhere).result = .ok policy)
    (sole : SoleOwners (before ++ lib :: after)) (known : kindsOfCode? code ≠ none) :
    ∃ edited, (build (before ++ lib.suppressing code :: after) everywhere).result = .ok edited := by
  obtain ⟨owners, owned, _⟩ := (build_eq_ok_iff _ everywhere policy).mp built
  have consistent := (OwnerIndex.build_represents _ owners owned).2.suppressing sole code known
  obtain ⟨index, indexed⟩ := (OwnerIndex.build_ok_iff_consistent _).mpr consistent
  exact ⟨_, (build_eq_ok_iff _ everywhere _).mpr ⟨index, indexed, rfl⟩⟩

theorem isLegacy_suppressing (built : (build (before ++ lib :: after) everywhere).result = .ok policy)
    (rebuilt : (build (before ++ lib.suppressing code :: after) everywhere).result = .ok edited)
    (moduleName : String) : edited.isLegacy moduleName = policy.isLegacy moduleName := by
  rw [Bool.eq_iff_iff, isLegacy_iff rebuilt, isLegacy_iff built]
  simp only [exists_mem_middle, Library.suppressing_legacy, Library.suppressing_modules]

/-- One more code adds its kinds in the modules of the library, and nothing else. -/
theorem suppresses_suppressing
    (built : (build (before ++ lib :: after) everywhere).result = .ok policy)
    (rebuilt : (build (before ++ lib.suppressing code :: after) everywhere).result = .ok edited)
    (moduleName : String) (k : Kind) :
    edited.suppresses moduleName k = true ↔
      policy.suppresses moduleName k = true ∨
        lib.claims moduleName = true ∧ ∃ kinds, kindsOfCode? code = some kinds ∧ k ∈ kinds := by
  rw [suppresses_iff rebuilt, suppresses_iff built, isLegacy_suppressing built rebuilt,
    exists_mem_middle, exists_mem_middle, Library.suppressing_claims, Library.mem_kinds_suppressing,
    and_or_left]
  simp only [or_assoc, or_comm, or_left_comm]

end Policy

end

/-- A diagnostic of a registered kind that is surfaced in a module of a strict library, the only one
that lists the module, tells the label of the library and two codes. If the library suppresses either
of them too, the closure still has a policy, the diagnostic is suppressed, nothing changes in modules of
other libraries, and in those of the library only kinds of the code become suppressed. -/
theorem hinted_codes_silence_locally (before : List Library) (lib : Library) (after : List Library)
    (everywhere : KindSet) (s : Sieve) (d : Diagnostic) (k : Kind)
    (sole : SoleOwners (before ++ lib :: after))
    (built : (Policy.build (before ++ lib :: after) everywhere).result = .ok s.policy)
    (surfaced : (s.offer d).1 = true) (known : d.kind? = some k) (strict : lib.legacy = false)
    (listed : s.moduleOf d ∈ lib.modules) :
    (s.offer d).2.surfaced = s.surfaced ++
      [⟨d.severity, s.moduleOf d, joinLines (d.headerText :: d.excerpt ++
        ["  ProTip: \"" ++ k.key ++ "\" or \"" ++ k.group.name ++
            "\" can be added to the `suppress` attribute of:",
          "  " ++ lib.label] ++
        if d.file.isSome then
          ["  Alternatively /** @suppress \x7b" ++ k.group.name ++
            "\x7d */ can be added to the source file."]
        else [])⟩] ∧
    ∀ code ∈ [k.key, k.group.name], ∃ edited,
      (Policy.build (before ++ lib.suppressing code :: after) everywhere).result = .ok edited ∧
      (({ s with policy := edited } : Sieve).offer d).1 = false ∧
      (∀ moduleName, moduleName ∉ lib.modules → ∀ other,
        edited.suppresses moduleName other = s.policy.suppresses moduleName other) ∧
      ∀ moduleName ∈ lib.modules, ∀ other,
        edited.suppresses moduleName other ≠ s.policy.suppresses moduleName other →
          s.policy.suppresses moduleName other = false ∧
          edited.suppresses moduleName other = true ∧
          ∃ kinds, kindsOfCode? code = some kinds ∧ other ∈ kinds := by
  have claimed := (Library.claims_iff lib (s.moduleOf d)).mpr ⟨strict, listed⟩
  constructor
  · have through : s.suppresses d = false := by
      cases held : s.suppresses d with
      | false => rfl
      | true => simp [Sieve.offer, held] at surfaced
    have owner : s.policy.attribution (s.moduleOf d) = lib.label := by
      rw [Policy.attribution, Policy.labelOf?_eq built, sole.owner?_eq _ claimed]
      rfl
    simp only [Sieve.offer, through, Sieve.surface, Diagnostic.render, Diagnostic.hintLines, known,
      owner, List.append_assoc]
    rfl
  · intro code hinted
    obtain ⟨kinds, resolved, member⟩ := k.mem_of_hinted code hinted
    have resolves : kindsOfCode? code ≠ none := by simp [resolved]
    -- Nobody else claims the modules, so that the edit meets no conflict.
    obtain ⟨edited, rebuilt⟩ := Policy.build_suppressing built sole resolves
    have verdict := Policy.suppresses_suppressing built rebuilt
    refine ⟨edited, rebuilt, ?_, ?_, ?_⟩
    · have silenced : edited.suppresses (s.moduleOf d) k = true :=
        (verdict (s.moduleOf d) k).mpr (.inr ⟨claimed, kinds, resolved, member⟩)
      have held : ({ s with policy := edited } : Sieve).suppresses d = true := by
        simp only [Sieve.suppresses, known]
        exact silenced
      rw [Sieve.offer, if_pos held]
    · intro moduleName unlisted other
      have unclaimed : ¬ lib.claims moduleName = true := fun claims =>
        unlisted ((Library.claims_iff lib moduleName).mp claims).2
      rw [Bool.eq_iff_iff, verdict]
      simp [unclaimed]
    · intro moduleName _ other changed
      by_cases old : s.policy.suppresses moduleName other = true
      · have new := (verdict moduleName other).mpr (.inl old)
        exact absurd (new.trans old.symm) changed
      · have off := Bool.eq_false_iff.mpr old
        rw [off] at changed
        have new := eq_true_of_ne_false changed
        exact ⟨off, new, (((verdict moduleName other).mp new).resolve_left old).2⟩

def hintedLibrary : Library :=
  { label := "//a", modules := ["m", "p"], suppressions := ["uselessCode"] }

/-- A library between a legacy one, which lists a module of it too, and another strict one. -/
def surrounded (lib : Library) : List Library :=
  [{ label := "//old", modules := ["m", "q"], legacy := true }] ++
    lib :: [{ label := "//b", modules := ["n"] }]

def evalUse : Diagnostic := ⟨.error, some "JSC_EVAL_USE", "eval", some "m.js", none, none, []⟩

theorem evalUse_silenced_by_group :
    ∃ policy edited, (Policy.build (surrounded hintedLibrary) ∅).result = .ok policy ∧
      (Policy.build (surrounded (hintedLibrary.suppressing "es5Strict")) ∅).result = .ok edited ∧
      (({ policy, roots := [] } : Sieve).offer evalUse).1 = true ∧
      (({ policy := edited, roots := [] } : Sieve).offer evalUse).1 = false ∧
      ∀ k, edited.suppresses "n" k = policy.suppresses "n" k := by
  obtain ⟨policy, built⟩ : ∃ policy, (Policy.build (surrounded hintedLibrary) ∅).result = .ok policy :=
    ⟨_, rfl⟩
  have sole : SoleOwners (surrounded hintedLibrary) := by
    simp [SoleOwners, surrounded, hintedLibrary]
  have surfaced : (({ policy, roots := [] } : Sieve).offer evalUse).1 = true := by
    cases built
    decide
  have listed : moduleName [] "m.js" ∈ hintedLibrary.modules := by decide
  obtain ⟨_, codes⟩ := hinted_codes_silence_locally _ hintedLibrary _ ∅ { policy, roots := [] } evalUse
    .evalUse sole built surfaced (by decide) rfl listed
  obtain ⟨edited, rebuilt, silenced, elsewhere, _⟩ := codes "es5Strict" (by decide)
  exact ⟨policy, edited, built, rebuilt, surfaced, silenced, elsewhere "n" (by decide)⟩

end DiagnosticSieve
