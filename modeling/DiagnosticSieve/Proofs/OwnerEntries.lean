import DiagnosticSieve.Proofs.PolicyVerdicts

namespace DiagnosticSieve

theorem lookup_eq_some_iff_mem {α β : Type} [BEq α] [LawfulBEq α] {table : List (α × β)}
    (single : (table.map Prod.fst).Nodup) (key : α) (value : β) :
    table.lookup key = some value ↔ (key, value) ∈ table := by
  induction table with
  | nil => simp
  | cons entry table ih =>
    obtain ⟨name, stored⟩ := entry
    obtain ⟨absent, rest⟩ := List.nodup_cons.mp single
    rw [List.mem_cons, Prod.mk.injEq]
    by_cases here : key = name
    · have unique : (key, value) ∉ table := by
        intro member
        exact absent (List.mem_map.mpr ⟨(key, value), member, here⟩)
      rw [here] at unique ⊢
      simp [unique, eq_comm]
    · rw [List.lookup_cons, beq_false_of_ne here]
      simp [here, ih rest]

/-- The first strict library of a closure that lists a module. -/
def FirstOwner (libraries : List Library) (moduleName : String) (lib : Library) : Prop :=
  ∃ before after, libraries = before ++ lib :: after ∧
    lib.legacy = false ∧ moduleName ∈ lib.modules ∧
    ∀ other ∈ before, other.legacy = false → moduleName ∉ other.modules

theorem owner?_eq_some_iff (libraries : List Library) (moduleName : String) (lib : Library) :
    owner? libraries moduleName = some lib ↔ FirstOwner libraries moduleName lib := by
  rw [owner?, List.find?_eq_some_iff_append, Library.claims_iff]
  constructor
  · intro found
    rcases found with ⟨⟨strict, listed⟩, before, after, split, earlier⟩
    refine ⟨before, after, split, strict, listed, ?_⟩
    intro other member strictToo listedToo
    have claimed := (Library.claims_iff other moduleName).mpr ⟨strictToo, listedToo⟩
    simpa [claimed] using earlier other member
  · intro first
    rcases first with ⟨before, after, split, strict, listed, earlier⟩
    refine ⟨⟨strict, listed⟩, before, after, split, ?_⟩
    intro other member
    rw [Bool.not_eq_true', ← Bool.not_eq_true, Library.claims_iff]
    intro claimed
    exact earlier other member claimed.1 claimed.2

namespace OwnerIndex

/-- The form that the two tables have together, whatever libraries were entered. -/
structure Tidy (index : OwnerIndex) : Prop where
  single : (index.labels.map Prod.fst).Nodup
  labelled : (index.suppressions.map Prod.fst).Sublist (index.labels.map Prod.fst)
  nonempty : ∀ entry ∈ index.suppressions, entry.2 ≠ ∅

theorem tidy_empty : ({} : OwnerIndex).Tidy := by
  constructor <;> simp

theorem labelOf?_eq_none_iff (index : OwnerIndex) (moduleName : String) :
    index.labelOf? moduleName = none ↔ moduleName ∉ index.labels.map Prod.fst := by
  rw [labelOf?, List.lookup_eq_none_iff, List.mem_map]
  constructor
  · intro differs listed
    obtain ⟨entry, member, rfl⟩ := listed
    simpa using differs entry member
  · intro absent entry member
    exact bne_iff_ne.mpr fun same => absent ⟨entry, member, same.symm⟩

variable {index next : OwnerIndex}

theorem Tidy.insert (tidy : index.Tidy) (moduleName label : String) (kinds : KindSet)
    (free : index.labelOf? moduleName = none) : (index.insert moduleName label kinds).Tidy := by
  have absent := (labelOf?_eq_none_iff index moduleName).mp free
  have single : ((index.insert moduleName label kinds).labels.map Prod.fst).Nodup :=
    List.nodup_cons.mpr ⟨absent, tidy.single⟩
  by_cases empty : kinds.isEmpty = true
  · have same : (index.insert moduleName label kinds).suppressions = index.suppressions := if_pos empty
    refine ⟨single, ?_, ?_⟩
    · rw [same]
      exact tidy.labelled.cons moduleName
    · rw [same]
      exact tidy.nonempty
  · have stored : (index.insert moduleName label kinds).suppressions =
        (moduleName, kinds) :: index.suppressions := if_neg empty
    refine ⟨single, ?_, ?_⟩
    · rw [stored]
      exact tidy.labelled.cons_cons moduleName
    · rw [stored]
      refine List.forall_mem_cons.mpr ⟨?_, tidy.nonempty⟩
      exact fun nothing => empty ((KindSet.isEmpty_iff kinds).mpr nothing)

theorem Tidy.claim (tidy : index.Tidy) (label moduleName : String) (kinds : KindSet)
    (done : (claim label kinds index moduleName).result = .ok next) : next.Tidy := by
  cases held : index.labelOf? moduleName with
  | none =>
    simp only [OwnerIndex.claim, held] at done
    cases done
    exact tidy.insert moduleName label kinds held
  | some owner =>
    have unchanged : next = index := by
      simp only [OwnerIndex.claim, held] at done
      split at done
      · cases done
      · split at done <;> cases done <;> rfl
    rw [unchanged]
    exact tidy

theorem Tidy.enter (tidy : index.Tidy) (lib : Library)
    (done : (index.enter lib).result = .ok next) : next.Tidy := by
  rw [OwnerIndex.enter] at done
  split at done
  · cases done
    exact tidy
  · cases resolved : resolveCodes lib.suppressions with
    | error code =>
      rw [resolved] at done
      cases done
    | ok kinds =>
      rw [resolved] at done
      exact Attempt.foldlM_keeps (fun _ moduleName _ before => before.claim lib.label moduleName kinds)
        lib.modules index next tidy done

theorem build_tidy (libraries : List Library) (built : (build libraries).result = .ok index) :
    index.Tidy := by
  rw [build] at built
  exact Attempt.foldlM_keeps (fun _ lib _ before => before.enter lib) libraries {} index tidy_empty built

theorem Tidy.suppressions_nodup (tidy : index.Tidy) : (index.suppressions.map Prod.fst).Nodup :=
  tidy.single.sublist tidy.labelled

theorem Tidy.labelOf?_eq_some_iff (tidy : index.Tidy) (moduleName label : String) :
    index.labelOf? moduleName = some label ↔ (moduleName, label) ∈ index.labels :=
  lookup_eq_some_iff_mem tidy.single moduleName label

theorem Tidy.lookup_suppressions_eq_some_iff (tidy : index.Tidy) (moduleName : String) (kinds : KindSet) :
    index.suppressions.lookup moduleName = some kinds ↔ (moduleName, kinds) ∈ index.suppressions :=
  lookup_eq_some_iff_mem tidy.suppressions_nodup moduleName kinds

variable {libraries : List Library}

theorem Represents.labelOf?_eq_some_iff (rep : index.Represents libraries) (moduleName label : String) :
    index.labelOf? moduleName = some label ↔
      ∃ lib, FirstOwner libraries moduleName lib ∧ lib.label = label := by
  rw [rep.labels, Option.map_eq_some_iff]
  simp only [owner?_eq_some_iff]

theorem Represents.lookup_suppressions_eq_some_iff (rep : index.Represents libraries)
    (moduleName : String) (kinds : KindSet) :
    index.suppressions.lookup moduleName = some kinds ↔
      ∃ lib, FirstOwner libraries moduleName lib ∧ lib.kinds = kinds ∧ kinds ≠ ∅ := by
  rw [rep.kinds, Option.filter_eq_some_iff, Option.map_eq_some_iff, Bool.not_eq_true',
    ← Bool.not_eq_true, KindSet.isEmpty_iff]
  simp only [owner?_eq_some_iff, ← exists_and_right, and_assoc]

theorem Represents.mem_labels_iff (rep : index.Represents libraries) (moduleName : String) :
    moduleName ∈ index.labels.map Prod.fst ↔
      ∃ lib ∈ libraries, lib.legacy = false ∧ moduleName ∈ lib.modules := by
  rw [← not_iff_not, ← labelOf?_eq_none_iff, rep.labels, Option.map_eq_none_iff, owner?_eq_none_iff]
  simp only [← Library.claims_iff]
  simp

end OwnerIndex

theorem Consistent.resolveCodes_eq {libraries : List Library} (consistent : Consistent libraries)
    {lib : Library} (member : lib ∈ libraries) {moduleName : String}
    (claimed : lib.claims moduleName = true) : resolveCodes lib.suppressions = .ok lib.kinds := by
  obtain ⟨strict, listed⟩ := (Library.claims_iff lib moduleName).mp claimed
  have known := consistent.known lib member (lib.strict_eq_true_iff.mpr strict)
    (List.ne_nil_of_mem listed)
  exact resolveCodes_of_known lib.suppressions known

theorem FirstOwner.mem_claims {libraries : List Library} {moduleName : String} {lib : Library}
    (first : FirstOwner libraries moduleName lib) :
    lib ∈ libraries ∧ lib.claims moduleName = true := by
  obtain ⟨before, after, rfl, strict, listed, _⟩ := first
  exact ⟨by simp, (Library.claims_iff lib moduleName).mpr ⟨strict, listed⟩⟩

namespace OwnerIndex

section

variable {libraries : List Library} {index : OwnerIndex}
  (built : (build libraries).result = .ok index)
include built

theorem mem_labels_iff_first (moduleName label : String) :
    (moduleName, label) ∈ index.labels ↔
      ∃ lib, FirstOwner libraries moduleName lib ∧ lib.label = label := by
  rw [← (build_tidy libraries built).labelOf?_eq_some_iff,
    (build_represents libraries index built).1.labelOf?_eq_some_iff]

theorem mem_suppressions_iff_first (moduleName : String) (kinds : KindSet) :
    (moduleName, kinds) ∈ index.suppressions ↔
      ∃ lib, FirstOwner libraries moduleName lib ∧ lib.kinds = kinds ∧ kinds ≠ ∅ := by
  rw [← (build_tidy libraries built).lookup_suppressions_eq_some_iff,
    (build_represents libraries index built).1.lookup_suppressions_eq_some_iff]

theorem mem_suppressions_keys_iff (moduleName : String) :
    moduleName ∈ index.suppressions.map Prod.fst ↔
      moduleName ∈ index.labels.map Prod.fst ∧
        ∃ lib kinds, FirstOwner libraries moduleName lib ∧
          resolveCodes lib.suppressions = .ok kinds ∧ kinds ≠ ∅ := by
  have consistent := (build_represents libraries index built).2
  constructor
  · intro listed
    refine ⟨(build_tidy libraries built).labelled.subset listed, ?_⟩
    obtain ⟨⟨_, kinds⟩, member, rfl⟩ := List.mem_map.mp listed
    obtain ⟨lib, first, rfl, allowed⟩ := (mem_suppressions_iff_first built _ kinds).mp member
    obtain ⟨inside, claimed⟩ := first.mem_claims
    exact ⟨lib, lib.kinds, first, consistent.resolveCodes_eq inside claimed, allowed⟩
  · intro owned
    rcases owned with ⟨_, lib, kinds, first, resolved, allowed⟩
    obtain ⟨inside, claimed⟩ := first.mem_claims
    rw [consistent.resolveCodes_eq inside claimed] at resolved
    cases resolved
    have stored := (mem_suppressions_iff_first built moduleName lib.kinds).mpr
      ⟨lib, first, rfl, allowed⟩
    exact List.mem_map.mpr ⟨(moduleName, lib.kinds), stored, rfl⟩

theorem resolveCodes_of_mem_suppressions {moduleName : String} {kinds : KindSet}
    (member : (moduleName, kinds) ∈ index.suppressions) {lib : Library} (among : lib ∈ libraries)
    (strict : lib.legacy = false) (listed : moduleName ∈ lib.modules) :
    resolveCodes lib.suppressions = .ok kinds := by
  have consistent := (build_represents libraries index built).2
  obtain ⟨owner, first, rfl, _⟩ := (mem_suppressions_iff_first built moduleName kinds).mp member
  obtain ⟨inside, owned⟩ := first.mem_claims
  have claimed := (Library.claims_iff lib moduleName).mpr ⟨strict, listed⟩
  rw [consistent.resolveCodes_eq among claimed,
    consistent.agreed lib among owner inside moduleName claimed owned]

end

end OwnerIndex

/-- The tables of owners are told by the libraries. Each has one entry for a module at most, which is what
a look-up finds. A module has a label exactly if some strict library lists it, that of the first one. It
has kinds exactly if it has a label and the codes of the first one stand for some; these are the kinds
that the codes of every strict library that lists it stand for. No lenient module has a label. -/
theorem owner_tables_tell_libraries (libraries : List Library) (index : OwnerIndex)
    (built : (OwnerIndex.build libraries).result = .ok index) :
    ((index.labels.map Prod.fst).Nodup ∧
      ∀ moduleName label,
        index.labelOf? moduleName = some label ↔ (moduleName, label) ∈ index.labels) ∧
    ((index.suppressions.map Prod.fst).Nodup ∧
      ∀ moduleName kinds,
        index.suppressions.lookup moduleName = some kinds ↔
          (moduleName, kinds) ∈ index.suppressions) ∧
    (∀ moduleName, moduleName ∈ index.labels.map Prod.fst ↔
      ∃ lib ∈ libraries, lib.legacy = false ∧ moduleName ∈ lib.modules) ∧
    (∀ moduleName label, (moduleName, label) ∈ index.labels ↔
      ∃ lib, FirstOwner libraries moduleName lib ∧ lib.label = label) ∧
    (∀ moduleName, moduleName ∈ index.suppressions.map Prod.fst ↔
      moduleName ∈ index.labels.map Prod.fst ∧
        ∃ lib kinds, FirstOwner libraries moduleName lib ∧
          resolveCodes lib.suppressions = .ok kinds ∧ kinds ≠ ∅) ∧
    (∀ moduleName kinds, (moduleName, kinds) ∈ index.suppressions →
      kinds ≠ ∅ ∧ ∀ lib ∈ libraries, lib.legacy = false → moduleName ∈ lib.modules →
        resolveCodes lib.suppressions = .ok kinds) ∧
    ∀ moduleName ∈ legacyModules libraries, moduleName ∉ index.labels.map Prod.fst := by
  have tidy := OwnerIndex.build_tidy libraries built
  have rep := (OwnerIndex.build_represents libraries index built).1
  refine ⟨⟨tidy.single, tidy.labelOf?_eq_some_iff⟩,
    ⟨tidy.suppressions_nodup, tidy.lookup_suppressions_eq_some_iff⟩, rep.mem_labels_iff,
    OwnerIndex.mem_labels_iff_first built, OwnerIndex.mem_suppressions_keys_iff built, ?_, ?_⟩
  · intro moduleName kinds member
    refine ⟨tidy.nonempty _ member, ?_⟩
    intro lib among strict listed
    exact OwnerIndex.resolveCodes_of_mem_suppressions built member among strict listed
  · intro moduleName lenient listed
    exact ((mem_legacyModules_iff libraries moduleName).mp lenient).2
      ((rep.mem_labels_iff moduleName).mp listed)

/-- Three strict libraries, two of which list a module with one set of kinds in two spellings, and a
legacy library that lists it too. -/
def agreeingClosure : List Library :=
  [{ label := "//old", modules := ["m", "z"], suppressions := ["nope"], legacy := true },
   { label := "//a", modules := ["m", "n", "m"], suppressions := ["uselessCode"] },
   { label := "//b", modules := ["p", "m"], suppressions := ["unreachable_code", "JSC_USELESS_CODE"] },
   { label := "//c", modules := ["q"] }]

theorem agreeingClosure_tables :
    ∃ index, (OwnerIndex.build agreeingClosure).result = .ok index ∧
      ("m", "//a") ∈ index.labels ∧ ("p", "//b") ∈ index.labels ∧
      "q" ∈ index.labels.map Prod.fst ∧ "q" ∉ index.suppressions.map Prod.fst ∧
      ("m", KindSet.ofList [.uselessCode, .unreachableCode]) ∈ index.suppressions ∧
      "z" ∉ index.labels.map Prod.fst := by
  obtain ⟨_, ⟨_, read⟩, labelled, label, suppressing, _, lenient⟩ :=
    owner_tables_tell_libraries agreeingClosure _ rfl
  refine ⟨_, rfl, ?_, ?_, ?_, ?_, ?_, ?_⟩
  · exact (label "m" "//a").mpr ⟨_, ⟨[agreeingClosure[0]], _, rfl, rfl, by decide, by decide⟩, rfl⟩
  · exact (label "p" "//b").mpr ⟨_, ⟨agreeingClosure.take 2, _, rfl, rfl, by decide, by decide⟩, rfl⟩
  · exact (labelled "q").mpr ⟨agreeingClosure[3], by decide, rfl, by decide⟩
  · decide
  · exact (read "m" _).mp (by decide)
  · exact lenient "z" (by decide)

end DiagnosticSieve
