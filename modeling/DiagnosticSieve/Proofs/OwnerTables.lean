import DiagnosticSieve.Policy.Ownership
import DiagnosticSieve.Proofs.AttemptResults
import DiagnosticSieve.Proofs.CodeResolution

/-!
Owner tables: what the index of owners says of the libraries that were entered into it. The owner of a
module is the first library that claims it, whatever the libraries after it are.
-/

namespace DiagnosticSieve

def owner? (libraries : List Library) (moduleName : String) : Option Library :=
  libraries.find? fun lib => lib.claims moduleName

theorem owner?_append (front back : List Library) (moduleName : String) :
    owner? (front ++ back) moduleName = (owner? front moduleName).or (owner? back moduleName) := by
  simp [owner?]

theorem owner?_mem (libraries : List Library) (moduleName : String) (lib : Library)
    (found : owner? libraries moduleName = some lib) :
    lib ∈ libraries ∧ lib.claims moduleName = true :=
  ⟨List.mem_of_find?_eq_some found, List.find?_some (p := fun l : Library => l.claims moduleName) found⟩

theorem owner?_eq_none_iff (libraries : List Library) (moduleName : String) :
    owner? libraries moduleName = none ↔ ∀ lib ∈ libraries, lib.claims moduleName = false := by
  simp [owner?]

/-- A library with only some of its modules, as long as the others are not entered. -/
def Library.only (lib : Library) (modules : List String) : Library := { lib with modules }

theorem owner?_of_other_kinds (entered : List Library) (lib : Library) (part : List String)
    (moduleName : String) (holder : Library)
    (found : owner? (entered ++ [lib.only part]) moduleName = some holder)
    (different : holder.kinds ≠ lib.kinds) : owner? entered moduleName = some holder := by
  rw [owner?_append] at found
  cases first : owner? entered moduleName with
  | some owner => rwa [first] at found
  | none =>
    rw [first, Option.none_or] at found
    -- The library itself has no other kinds than its own.
    have last : holder = lib.only part := List.mem_singleton.mp (owner?_mem _ _ _ found).1
    rw [last] at different
    exact absurd rfl different

/-- The owner after a part of the modules of a strict library. All that is asked of the owner is not
about its modules. -/
theorem map_owner?_only {α : Type} (about : Library → α) (entered : List Library) (lib : Library)
    (steady : ∀ modules, about (lib.only modules) = about lib) (strict : lib.strict = true)
    (part : List String) (moduleName : String) :
    (owner? (entered ++ [lib.only part]) moduleName).map about =
      ((owner? entered moduleName).map about).or
        (if moduleName ∈ part then some (about lib) else none) := by
  have last : owner? [lib.only part] moduleName =
      if moduleName ∈ part then some (lib.only part) else none := by
    by_cases member : moduleName ∈ part
    · have claimed : (lib.only part).claims moduleName = true :=
        (Library.claims_iff _ _).mpr ⟨(Library.strict_eq_true_iff lib).mp strict, member⟩
      simp [owner?, claimed, member]
    · have unclaimed : (lib.only part).claims moduleName = false := by
        simp [Library.claims, Library.only, member]
      simp [owner?, unclaimed, member]
  rw [owner?_append, last]
  cases owner? entered moduleName with
  | some owner => rfl
  | none => by_cases member : moduleName ∈ part <;> simp [member, steady]

theorem owner?_only_eq_none_iff (entered : List Library) (lib : Library) (strict : lib.strict = true)
    (part : List String) (moduleName : String) :
    owner? (entered ++ [lib.only part]) moduleName = none ↔
      owner? entered moduleName = none ∧ moduleName ∉ part := by
  have parts := map_owner?_only (fun _ => ()) entered lib (fun _ => rfl) strict part moduleName
  rw [← Option.map_eq_none_iff (f := fun _ => ()), parts]
  by_cases member : moduleName ∈ part <;> simp [member]

theorem map_owner?_of_free {α : Type} (about : Library → α) (entered : List Library) (lib : Library)
    (steady : ∀ modules, about (lib.only modules) = about lib) (strict : lib.strict = true)
    (part : List String) (moduleName : String)
    (free : owner? (entered ++ [lib.only part]) moduleName = none) (other : String) :
    (owner? (entered ++ [lib.only (part ++ [moduleName])]) other).map about =
      if other = moduleName then some (about lib)
      else (owner? (entered ++ [lib.only part]) other).map about := by
  obtain ⟨unowned, _⟩ := (owner?_only_eq_none_iff entered lib strict part moduleName).mp free
  rw [map_owner?_only about entered lib steady strict, map_owner?_only about entered lib steady strict]
  by_cases same : other = moduleName
  · simp [same, unowned]
  · simp [same]

theorem map_owner?_of_owned {α : Type} (about : Library → α) (entered : List Library) (lib : Library)
    (steady : ∀ modules, about (lib.only modules) = about lib) (strict : lib.strict = true)
    (part : List String) (moduleName : String)
    (owned : owner? (entered ++ [lib.only part]) moduleName ≠ none) (other : String) :
    (owner? (entered ++ [lib.only (part ++ [moduleName])]) other).map about =
      (owner? (entered ++ [lib.only part]) other).map about := by
  rw [map_owner?_only about entered lib steady strict, map_owner?_only about entered lib steady strict]
  by_cases same : other = moduleName
  · subst other
    cases found : owner? entered moduleName with
    | some owner => rfl
    | none =>
      have member : moduleName ∈ part := by
        simpa [owner?_only_eq_none_iff entered lib strict, found] using owned
      simp [member]
  · simp [same]

namespace OwnerIndex

/-- What the tables hold once some libraries are entered: for every module that is claimed the label
of its owner, and the kinds of its owner unless there are none. -/
structure Represents (index : OwnerIndex) (libraries : List Library) : Prop where
  labels : ∀ moduleName, index.labelOf? moduleName = (owner? libraries moduleName).map Library.label
  kinds : ∀ moduleName, index.suppressions.lookup moduleName =
    ((owner? libraries moduleName).map Library.kinds).filter fun s => !s.isEmpty

theorem represents_nil : ({} : OwnerIndex).Represents [] := by
  constructor <;> intro moduleName <;> rfl

theorem Represents.kindsOf {index : OwnerIndex} {libraries : List Library}
    (rep : index.Represents libraries) (moduleName : String) :
    index.kindsOf moduleName = ((owner? libraries moduleName).map Library.kinds).getD ∅ := by
  rw [OwnerIndex.kindsOf, rep.kinds]
  cases owner? libraries moduleName with
  | none => rfl
  | some owner =>
    by_cases empty : owner.kinds.isEmpty = true
    · have nothing : owner.kinds = ∅ := (KindSet.isEmpty_iff _).mp empty
      simp only [Option.map_some, nothing]
      rfl
    · simp [Option.filter, empty]

theorem Represents.insert {index : OwnerIndex} {entered : List Library} {lib : Library}
    {part : List String} {moduleName : String}
    (rep : index.Represents (entered ++ [lib.only part])) (strict : lib.strict = true)
    (free : owner? (entered ++ [lib.only part]) moduleName = none) :
    (index.insert moduleName lib.label lib.kinds).Represents
      (entered ++ [lib.only (part ++ [moduleName])]) := by
  constructor <;> intro other
  · rw [map_owner?_of_free Library.label entered lib (fun _ => rfl) strict part moduleName free,
      ← rep.labels]
    by_cases same : other = moduleName
    · simp [OwnerIndex.labelOf?, OwnerIndex.insert, same]
    · simp [OwnerIndex.labelOf?, OwnerIndex.insert, same, List.lookup_cons, beq_false_of_ne same]
  · rw [map_owner?_of_free Library.kinds entered lib (fun _ => rfl) strict part moduleName free]
    have before := rep.kinds other
    by_cases same : other = moduleName
    · subst other
      have unlisted : index.suppressions.lookup moduleName = none := by simpa [free] using before
      by_cases empty : lib.kinds.isEmpty = true <;>
        simp [OwnerIndex.insert, empty, unlisted, Option.filter]
    · by_cases empty : lib.kinds.isEmpty = true <;>
        simp [OwnerIndex.insert, empty, same, List.lookup_cons, beq_false_of_ne same, before]

theorem Represents.keep {index : OwnerIndex} {entered : List Library} {lib : Library}
    {part : List String} {moduleName : String}
    (rep : index.Represents (entered ++ [lib.only part])) (strict : lib.strict = true)
    (owned : owner? (entered ++ [lib.only part]) moduleName ≠ none) :
    index.Represents (entered ++ [lib.only (part ++ [moduleName])]) := by
  constructor <;> intro other
  · rw [map_owner?_of_owned Library.label entered lib (fun _ => rfl) strict part moduleName owned]
    exact rep.labels other
  · rw [map_owner?_of_owned Library.kinds entered lib (fun _ => rfl) strict part moduleName owned]
    exact rep.kinds other

end OwnerIndex

end DiagnosticSieve
