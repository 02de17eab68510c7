import DiagnosticSieve.Kind

/-!
Sets of kinds. A set is its membership test; since there are finitely many kinds, equality of sets
is decided by asking about each of them.
-/

namespace DiagnosticSieve

@[ext]
structure KindSet where
  contains : Kind → Bool

namespace KindSet

def empty : KindSet := ⟨fun _ => false⟩

def union (s t : KindSet) : KindSet := ⟨fun k => s.contains k || t.contains k⟩

def ofList (kinds : List Kind) : KindSet := ⟨fun k => decide (k ∈ kinds)⟩

def toList (s : KindSet) : List Kind := Kind.all.filter s.contains

def size (s : KindSet) : Nat := s.toList.length

def isEmpty (s : KindSet) : Bool := s.toList.isEmpty

instance : EmptyCollection KindSet := ⟨empty⟩

instance : Union KindSet := ⟨union⟩

instance : Membership Kind KindSet := ⟨fun s k => s.contains k = true⟩

instance (k : Kind) (s : KindSet) : Decidable (k ∈ s) :=
  inferInstanceAs (Decidable (s.contains k = true))

@[simp] theorem mem_mk (k : Kind) (p : Kind → Bool) : k ∈ KindSet.mk p ↔ p k = true := Iff.rfl

theorem contains_iff_mem (k : Kind) (s : KindSet) : s.contains k = true ↔ k ∈ s := Iff.rfl

@[simp] theorem not_mem_empty (k : Kind) : ¬ k ∈ (∅ : KindSet) := Bool.false_ne_true

@[simp] theorem mem_union (k : Kind) (s t : KindSet) : k ∈ s ∪ t ↔ k ∈ s ∨ k ∈ t := by
  show (s.contains k || t.contains k) = true ↔ _
  simp [contains_iff_mem]

@[simp] theorem mem_ofList (k : Kind) (kinds : List Kind) : k ∈ ofList kinds ↔ k ∈ kinds := by
  show decide (k ∈ kinds) = true ↔ _
  simp

@[simp] theorem mem_toList (k : Kind) (s : KindSet) : k ∈ s.toList ↔ k ∈ s := by
  simp [toList, Kind.mem_all, contains_iff_mem]

theorem eq_of_mem_iff {s t : KindSet} (h : ∀ k, k ∈ s ↔ k ∈ t) : s = t := by
  ext k
  exact Bool.eq_iff_iff.mpr (h k)

theorem eq_iff_forall_mem_all (s t : KindSet) :
    s = t ↔ ∀ k ∈ Kind.all, s.contains k = t.contains k := by
  constructor
  · rintro rfl k _
    rfl
  · intro h
    ext k
    exact h k (Kind.mem_all k)

instance : DecidableEq KindSet := fun s t =>
  decidable_of_iff _ (eq_iff_forall_mem_all s t).symm

theorem isEmpty_iff (s : KindSet) : s.isEmpty = true ↔ s = ∅ := by
  rw [isEmpty, List.isEmpty_iff]
  constructor
  · intro h
    apply eq_of_mem_iff
    intro k
    rw [← mem_toList, h]
    simp
  · rintro rfl
    exact List.filter_eq_nil_iff.mpr fun _ _ => Bool.false_ne_true

end KindSet

end DiagnosticSieve
