import DiagnosticSieve.Proofs.OwnerTables
import Mathlib.Data.List.Induction

/-!
Consistent closures. An index of owners is built exactly from the closures in which every code that is
looked at is known, and in which all libraries that claim a module agree on its kinds. Otherwise the
first library that does not fit the ones before it decides the error.
-/

namespace DiagnosticSieve

def Contested (entered : List Library) (lib : Library) (moduleName : String) : Prop :=
  ∃ other ∈ entered, other.claims moduleName = true ∧ other.kinds ≠ lib.kinds

/-- What keeps a library from being entered behind others, and the error that tells it: its first
unknown code, else its first contested module, together with the owner of that. -/
inductive Refusal (entered : List Library) (lib : Library) : OwnershipError → Prop
  | unknownCode (before : List String) (code : String) (after : List String)
      (strict : lib.strict = true) (listed : lib.modules ≠ [])
      (codes : lib.suppressions = before ++ code :: after)
      (known : ∀ other ∈ before, kindsOfCode? other ≠ none) (unknown : kindsOfCode? code = none) :
      Refusal entered lib (.unknownCode code lib.label)
  | conflict (before : List String) (moduleName : String) (after : List String) (owner : Library)
      (strict : lib.strict = true) (known : ∀ code ∈ lib.suppressions, kindsOfCode? code ≠ none)
      (modules : lib.modules = before ++ moduleName :: after)
      (settled : ∀ other ∈ before, ¬ Contested entered lib other)
      (contested : Contested entered lib moduleName)
      (owned : owner? entered moduleName = some owner) :
      Refusal entered lib (.conflict moduleName owner.label lib.label)

structure Consistent (libraries : List Library) : Prop where
  known : ∀ lib ∈ libraries, lib.strict = true → lib.modules ≠ [] →
    ∀ code ∈ lib.suppressions, kindsOfCode? code ≠ none
  agreed : ∀ a ∈ libraries, ∀ b ∈ libraries, ∀ moduleName,
    a.claims moduleName = true → b.claims moduleName = true → a.kinds = b.kinds

theorem contested_iff_owner (entered : List Library) (consistent : Consistent entered) (lib : Library)
    (moduleName : String) :
    Contested entered lib moduleName ↔
      ∃ owner, owner? entered moduleName = some owner ∧ owner.kinds ≠ lib.kinds := by
  constructor
  · intro dispute
    rcases dispute with ⟨other, member, claimed, different⟩
    cases found : owner? entered moduleName with
    | none =>
      have unclaimed := (owner?_eq_none_iff entered moduleName).mp found other member
      rw [claimed] at unclaimed
      cases unclaimed
    | some owner =>
      obtain ⟨inside, owned⟩ := owner?_mem entered moduleName owner found
      refine ⟨owner, rfl, ?_⟩
      rw [consistent.agreed owner inside other member moduleName owned claimed]
      exact different
  · intro dispute
    rcases dispute with ⟨owner, found, different⟩
    obtain ⟨inside, owned⟩ := owner?_mem entered moduleName owner found
    exact ⟨owner, inside, owned, different⟩

theorem Consistent.append {entered : List Library} {lib : Library} (consistent : Consistent entered)
    (known : lib.strict = true → lib.modules ≠ [] → ∀ code ∈ lib.suppressions,
      kindsOfCode? code ≠ none)
    (settled : ∀ moduleName, lib.claims moduleName = true → ¬ Contested entered lib moduleName) :
    Consistent (entered ++ [lib]) := by
  have same (other : Library) (member : other ∈ entered) (moduleName : String)
      (theirs : other.claims moduleName = true) (ours : lib.claims moduleName = true) :
      other.kinds = lib.kinds := by
    by_cases equal : other.kinds = lib.kinds
    · exact equal
    · exact absurd ⟨other, member, theirs, equal⟩ (settled moduleName ours)
  constructor
  · intro other member
    rcases List.mem_append.mp member with inside | last
    · exact consistent.known other inside
    · rw [List.mem_singleton.mp last]
      exact known
  · intro a first b second moduleName claimedA claimedB
    rcases List.mem_append.mp first with insideA | lastA <;>
      rcases List.mem_append.mp second with insideB | lastB
    · exact consistent.agreed a insideA b insideB moduleName claimedA claimedB
    · rw [List.mem_singleton.mp lastB] at claimedB ⊢
      exact same a insideA moduleName claimedA claimedB
    · rw [List.mem_singleton.mp lastA] at claimedA ⊢
      exact (same b insideB moduleName claimedB claimedA).symm
    · rw [List.mem_singleton.mp lastA, List.mem_singleton.mp lastB]

theorem Refusal.not_consistent {entered : List Library} {lib : Library} {e : OwnershipError}
    (refusal : Refusal entered lib e) (after : List Library) :
    ¬ Consistent (entered ++ lib :: after) := by
  intro consistent
  have present : lib ∈ entered ++ lib :: after := by simp
  cases refusal with
  | unknownCode before code rest strict listed codes known unknown =>
    have inside : code ∈ lib.suppressions := by simp [codes]
    exact consistent.known lib present strict listed code inside unknown
  | conflict before moduleName rest owner strict known modules settled contested owned =>
    obtain ⟨other, member, claimed, different⟩ := contested
    have ours : lib.claims moduleName = true := by simp [Library.claims, strict, modules]
    exact different
      (consistent.agreed other (List.mem_append_left _ member) lib present moduleName claimed ours)

namespace OwnerIndex

theorem claim_result {index : OwnerIndex} {entered : List Library} {lib : Library}
    {part : List String} (rep : index.Represents (entered ++ [lib.only part]))
    (strict : lib.strict = true) (moduleName : String) :
    (∃ next, (claim lib.label lib.kinds index moduleName).result = .ok next ∧
        next.Represents (entered ++ [lib.only (part ++ [moduleName])]) ∧
        ∀ owner, owner? entered moduleName = some owner → owner.kinds = lib.kinds) ∨
      ∃ owner, owner? entered moduleName = some owner ∧ owner.kinds ≠ lib.kinds ∧
        (claim lib.label lib.kinds index moduleName).result =
          .error (.conflict moduleName owner.label lib.label) := by
  cases found : owner? (entered ++ [lib.only part]) moduleName with
  | none =>
    have free : index.labelOf? moduleName = none := by rw [rep.labels, found]; rfl
    obtain ⟨unowned, _⟩ := (owner?_only_eq_none_iff entered lib strict part moduleName).mp found
    refine .inl ⟨index.insert moduleName lib.label lib.kinds, ?_, rep.insert strict found, ?_⟩
    · simp only [claim, free, Attempt.result_pure]
    · intro owner owned
      rw [unowned] at owned
      cases owned
  | some holder =>
    have held : index.labelOf? moduleName = some holder.label := by rw [rep.labels, found]; rfl
    have suppressed : index.kindsOf moduleName = holder.kinds := by rw [rep.kindsOf, found]; rfl
    have owned : owner? (entered ++ [lib.only part]) moduleName ≠ none := by simp [found]
    by_cases agreed : holder.kinds = lib.kinds
    · refine .inl ⟨index, ?_, rep.keep strict owned, ?_⟩
      · simp only [claim, held, suppressed, agreed, ne_eq, not_true_eq_false, if_false]
        by_cases same : holder.label = lib.label
        · rw [if_pos same, Attempt.result_pure]
        · rw [if_neg same]
          rfl
      · intro owner first
        rw [owner?_append, first] at found
        cases found
        exact agreed
    · have first := owner?_of_other_kinds entered lib part moduleName holder found agreed
      refine .inr ⟨holder, first, agreed, ?_⟩
      simp only [claim, held, suppressed, ne_eq, agreed, not_false_eq_true, if_true,
        Attempt.result_refuse]

theorem claims_result {entered : List Library} {lib : Library} (strict : lib.strict = true)
    (modules : List String) (index : OwnerIndex) (part : List String)
    (rep : index.Represents (entered ++ [lib.only part])) :
    (∃ next, (modules.foldlM (claim lib.label lib.kinds) index).result = .ok next ∧
        next.Represents (entered ++ [lib.only (part ++ modules)]) ∧
        ∀ moduleName ∈ modules, ∀ owner, owner? entered moduleName = some owner →
          owner.kinds = lib.kinds) ∨
      ∃ before moduleName after owner, modules = before ++ moduleName :: after ∧
        (∀ other ∈ before, ∀ owner, owner? entered other = some owner → owner.kinds = lib.kinds) ∧
        owner? entered moduleName = some owner ∧ owner.kinds ≠ lib.kinds ∧
        (modules.foldlM (claim lib.label lib.kinds) index).result =
          .error (.conflict moduleName owner.label lib.label) := by
  induction modules generalizing index part with
  | nil => exact .inl ⟨index, rfl, by simpa using rep, by simp⟩
  | cons first modules ih =>
    rw [List.foldlM_cons]
    rcases claim_result rep strict first with ⟨next, done, grown, agreed⟩ | ⟨owner, owned, different, refused⟩
    · rw [Attempt.result_bind_of_ok _ _ next done]
      rcases ih next (part ++ [first]) grown with
        ⟨last, complete, filled, rest⟩ | ⟨before, moduleName, after, owner, split, rest, failure⟩
      · refine .inl ⟨last, complete, by simpa using filled, ?_⟩
        intro moduleName member
        rcases List.mem_cons.mp member with rfl | inside
        · exact agreed
        · exact rest moduleName inside
      · refine .inr ⟨first :: before, moduleName, after, owner, by rw [split]; rfl, ?_, failure⟩
        intro other member
        rcases List.mem_cons.mp member with rfl | inside
        · exact agreed
        · exact rest other inside
    · rw [Attempt.result_bind_of_error _ _ _ refused]
      exact .inr ⟨[], first, modules, owner, rfl, by simp, owned, different, rfl⟩

theorem Represents.skip {index : OwnerIndex} {entered : List Library} {lib : Library}
    (rep : index.Represents entered) (idle : ∀ moduleName, lib.claims moduleName = false) :
    index.Represents (entered ++ [lib]) := by
  have same (moduleName : String) : owner? (entered ++ [lib]) moduleName = owner? entered moduleName := by
    have last : owner? [lib] moduleName = none := by simp [owner?, idle]
    rw [owner?_append, last, Option.or_none]
  constructor <;> intro moduleName
  · rw [same, rep.labels]
  · rw [same, rep.kinds]

/-- A library is entered behind others that fit together, or refused for a reason. -/
theorem enter_result {index : OwnerIndex} {entered : List Library}
    (rep : index.Represents entered) (consistent : Consistent entered) (lib : Library) :
    (∃ next, (index.enter lib).result = .ok next ∧ next.Represents (entered ++ [lib]) ∧
        Consistent (entered ++ [lib])) ∨
      ∃ e, (index.enter lib).result = .error e ∧ Refusal entered lib e := by
  by_cases skipped : (lib.legacy || lib.modules.isEmpty) = true
  · have idle (moduleName : String) : lib.claims moduleName = false := by
      rcases (Bool.or_eq_true _ _).mp skipped with legacy | empty
      · simp [Library.claims, Library.strict, legacy]
      · simp [Library.claims, List.isEmpty_iff.mp empty]
    refine .inl ⟨index, ?_, rep.skip idle, consistent.append ?_ ?_⟩
    · rw [enter, if_pos skipped, Attempt.result_pure]
    · intro strict listed
      simp [(Library.strict_eq_true_iff lib).mp strict, listed] at skipped
    · intro moduleName claimed
      rw [idle moduleName] at claimed
      cases claimed
  have strict : lib.strict = true := by
    cases legacy : lib.legacy <;> simp [Library.strict, legacy] at skipped ⊢
  have listed : lib.modules ≠ [] := by
    intro empty
    simp [empty] at skipped
  rcases known_or_first_unknown lib.suppressions with known | ⟨before, code, after, codes, known, unknown⟩
  · have resolved : resolveCodes lib.suppressions = .ok lib.kinds := resolveCodes_of_known _ known
    have entering : index.enter lib = lib.modules.foldlM (claim lib.label lib.kinds) index := by
      rw [enter, if_neg skipped, resolved]
    have start : index.Represents (entered ++ [lib.only []]) :=
      rep.skip fun _ => by simp [Library.claims, Library.only]
    rw [entering]
    -- The modules are claimed one after the other; `lib.only` tells how far this has got.
    rcases claims_result strict lib.modules index [] start with
      ⟨next, done, filled, agreed⟩ | ⟨before, moduleName, after, owner, split, agreed, owned, different, refused⟩
    · refine .inl ⟨next, done, filled, consistent.append (fun _ _ => known) ?_⟩
      intro moduleName claimed contested
      obtain ⟨owner, owned, different⟩ := (contested_iff_owner entered consistent lib moduleName).mp contested
      exact different (agreed moduleName ((Library.claims_iff lib moduleName).mp claimed).2 owner owned)
    · refine .inr ⟨_, refused, .conflict before moduleName after owner strict known split ?_ ?_ owned⟩
      · intro other member contested
        obtain ⟨first, found, unequal⟩ := (contested_iff_owner entered consistent lib other).mp contested
        exact unequal (agreed other member first found)
      · exact (contested_iff_owner entered consistent lib moduleName).mpr ⟨owner, owned, different⟩
  · have resolved : resolveCodes lib.suppressions = .error code := by
      rw [codes]
      exact resolveCodes_of_unknown before code after known unknown
    refine .inr ⟨_, ?_, .unknownCode before code after strict listed codes known unknown⟩
    rw [enter, if_neg skipped, resolved, Attempt.result_refuse]

theorem build_append (front back : List Library) :
    build (front ++ back) = build front >>= fun index => back.foldlM enter index := by
  rw [build, List.foldlM_append]
  rfl

theorem build_append_of_error (front back : List Library) (e : OwnershipError)
    (refused : (build front).result = .error e) : (build (front ++ back)).result = .error e := by
  rw [build_append]
  exact Attempt.result_bind_of_error _ _ e refused

theorem build_result (libraries : List Library) :
    (∃ index, (build libraries).result = .ok index ∧ index.Represents libraries ∧
        Consistent libraries) ∨
      ∃ before lib after e, libraries = before ++ lib :: after ∧
        (∃ index, (build before).result = .ok index) ∧ Refusal before lib e ∧
        (build (before ++ [lib])).result = .error e ∧ (build libraries).result = .error e := by
  -- The list of libraries that are already entered grows at its end.
  induction libraries using List.reverseRecOn with
  | nil => exact .inl ⟨{}, rfl, represents_nil, ⟨by simp, by simp⟩⟩
  | append_singleton entered lib ih =>
    rcases ih with ⟨index, built, rep, consistent⟩ |
      ⟨before, first, after, e, split, built, refusal, refused, failed⟩
    · have last : (build (entered ++ [lib])).result = (index.enter lib).result := by
        rw [build_append, Attempt.result_bind_of_ok _ _ index built, List.foldlM_cons]
        simp
      rcases enter_result rep consistent lib with ⟨next, done, grown, fits⟩ | ⟨e, failure, refusal⟩
      · exact .inl ⟨next, last.trans done, grown, fits⟩
      · have failed := last.trans failure
        exact .inr ⟨entered, lib, [], e, rfl, ⟨index, built⟩, refusal, failed, failed⟩
    · exact .inr ⟨before, first, after ++ [lib], e, by simp [split], built, refusal, refused,
        build_append_of_error entered [lib] e failed⟩

theorem build_represents (libraries : List Library) (index : OwnerIndex)
    (built : (build libraries).result = .ok index) :
    index.Represents libraries ∧ Consistent libraries := by
  rcases build_result libraries with ⟨next, done, rep, consistent⟩ | ⟨_, _, _, e, _, _, _, _, failed⟩
  · rw [built] at done
    cases done
    exact ⟨rep, consistent⟩
  · rw [built] at failed
    cases failed

theorem build_ok_iff_consistent (libraries : List Library) :
    (∃ index, (build libraries).result = .ok index) ↔ Consistent libraries := by
  constructor
  · intro success
    rcases success with ⟨index, built⟩
    exact (build_represents libraries index built).2
  · intro consistent
    rcases build_result libraries with ⟨index, built, _⟩ | ⟨before, lib, after, e, split, _, refusal, _⟩
    · exact ⟨index, built⟩
    · rw [split] at consistent
      exact absurd consistent (refusal.not_consistent after)

theorem build_error_iff_not_consistent (libraries : List Library) :
    (∃ e, (build libraries).result = .error e) ↔ ¬ Consistent libraries := by
  rw [← build_ok_iff_consistent]
  cases (build libraries).result <;> simp

end OwnerIndex

theorem not_consistent_iff (libraries : List Library) :
    ¬ Consistent libraries ↔
      (∃ lib ∈ libraries, lib.legacy = false ∧ lib.modules ≠ [] ∧
        ∃ code ∈ lib.suppressions, kindsOfCode? code = none) ∨
      ∃ i j : Fin libraries.length, i ≠ j ∧
        libraries[i].legacy = false ∧ libraries[j].legacy = false ∧
        (∃ moduleName, moduleName ∈ libraries[i].modules ∧ moduleName ∈ libraries[j].modules) ∧
        libraries[i].kinds ≠ libraries[j].kinds := by
  constructor
  · intro inconsistent
    by_contra none_such
    obtain ⟨noUnknown, noClash⟩ := not_or.mp none_such
    refine inconsistent ⟨?_, ?_⟩
    · intro lib member strict listed code inside unknown
      exact noUnknown ⟨lib, member, (lib.strict_eq_true_iff).mp strict, listed, code, inside, unknown⟩
    · intro a first b second moduleName claimedA claimedB
      by_contra different
      obtain ⟨i, hi, rfl⟩ := List.getElem_of_mem first
      obtain ⟨j, hj, rfl⟩ := List.getElem_of_mem second
      obtain ⟨strictA, listedA⟩ := (Library.claims_iff _ _).mp claimedA
      obtain ⟨strictB, listedB⟩ := (Library.claims_iff _ _).mp claimedB
      refine noClash ⟨⟨i, hi⟩, ⟨j, hj⟩, ?_, strictA, strictB, ⟨moduleName, listedA, listedB⟩, different⟩
      intro same
      cases same
      exact different rfl
  · intro flaw consistent
    rcases flaw with ⟨lib, member, strict, listed, code, inside, unknown⟩ |
      ⟨i, j, _, strictA, strictB, ⟨moduleName, listedA, listedB⟩, different⟩
    · exact consistent.known lib member (lib.strict_eq_true_iff.mpr strict) listed code inside unknown
    · refine different (consistent.agreed _ (List.getElem_mem i.isLt) _ (List.getElem_mem j.isLt)
        moduleName ?_ ?_)
      · exact (Library.claims_iff _ _).mpr ⟨strictA, listedA⟩
      · exact (Library.claims_iff _ _).mpr ⟨strictB, listedB⟩

/-- The index of owners is refused exactly for closures in which a strict library with modules has an
unknown code, or two strict libraries share a module and suppress different kinds. The error is that
of the shortest refused prefix, and the last library of it is the reason. -/
theorem build_refused_iff_inconsistent (libraries : List Library) :
    ((∃ e, (OwnerIndex.build libraries).result = .error e) ↔
      (∃ lib ∈ libraries, lib.legacy = false ∧ lib.modules ≠ [] ∧
        ∃ code ∈ lib.suppressions, kindsOfCode? code = none) ∨
      ∃ i j : Fin libraries.length, i ≠ j ∧
        libraries[i].legacy = false ∧ libraries[j].legacy = false ∧
        (∃ moduleName, moduleName ∈ libraries[i].modules ∧ moduleName ∈ libraries[j].modules) ∧
        libraries[i].kinds ≠ libraries[j].kinds) ∧
    ∀ e, (OwnerIndex.build libraries).result = .error e →
      ∃ before lib after, libraries = before ++ lib :: after ∧
        (∀ front, front <+: before → ∃ index, (OwnerIndex.build front).result = .ok index) ∧
        (OwnerIndex.build (before ++ [lib])).result = .error e ∧ Refusal before lib e := by
  constructor
  · rw [OwnerIndex.build_error_iff_not_consistent, not_consistent_iff]
  · intro e failed
    rcases OwnerIndex.build_result libraries with
      ⟨index, built, _⟩ | ⟨before, lib, after, first, split, ⟨index, built⟩, refusal, refused, failure⟩
    · rw [built] at failed
      cases failed
    · rw [failure] at failed
      cases failed
      refine ⟨before, lib, after, split, ?_, refused, refusal⟩
      intro front initial
      rcases initial with ⟨rest, rfl⟩
      cases shorter : (OwnerIndex.build front).result with
      | ok index => exact ⟨index, rfl⟩
      | error fault =>
        rw [OwnerIndex.build_append_of_error front rest fault shorter] at built
        cases built

/-- A closure in which the second strict library clashes with the first. -/
def sharedClosure : List Library :=
  [{ label := "//a", modules := ["m"], suppressions := ["checkTypes"] },
   { label := "//old", modules := ["m"], suppressions := ["nope"], legacy := true },
   { label := "//b", modules := ["n", "m"], suppressions := ["uselessCode"] }]

theorem sharedClosure_refused :
    (OwnerIndex.build sharedClosure).result = .error (.conflict "m" "//a" "//b") ∧
      ∃ before lib after, sharedClosure = before ++ lib :: after ∧
        (∀ front, front <+: before → ∃ index, (OwnerIndex.build front).result = .ok index) ∧
        (OwnerIndex.build (before ++ [lib])).result = .error (.conflict "m" "//a" "//b") ∧
        Refusal before lib (.conflict "m" "//a" "//b") :=
  ⟨rfl, (build_refused_iff_inconsistent sharedClosure).2 (.conflict "m" "//a" "//b") rfl⟩

end DiagnosticSieve
