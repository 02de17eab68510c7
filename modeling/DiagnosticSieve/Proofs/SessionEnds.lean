import DiagnosticSieve.Proofs.FileWrites
import DiagnosticSieve.Proofs.SessionEvents

namespace DiagnosticSieve.Session

variable {ε α β : Type}

/-- A session is carried out on some files, ends in a value and leaves other files. -/
def Ends (x : Session ε α) (files : FileTree) (value : α) (left : FileTree) : Prop :=
  (x files).result = .ok value ∧ (x files).files = left

theorem ends_pure_iff (value last : α) (files left : FileTree) :
    (pure value : Session ε α).Ends files last left ↔ last = value ∧ left = files := by
  simp [Ends, pure_apply, eq_comm]

theorem ends_bind_iff (x : Session ε α) (next : α → Session ε β) (files left : FileTree) (last : β) :
    (x >>= next).Ends files last left ↔
      ∃ value between, x.Ends files value between ∧ (next value).Ends between last left := by
  cases first : (x files).result with
  | error e => simp [Ends, bind_apply_error x next files e first, first]
  | ok value =>
    simp only [Ends, bind_apply_ok x next files value first, first]
    constructor
    · intro rest
      exact ⟨value, _, ⟨rfl, rfl⟩, rest⟩
    · rintro ⟨_, _, ⟨⟨rfl⟩, rfl⟩, rest⟩
      exact rest

theorem ends_emit_iff (events : List Event) (files left : FileTree) :
    (emit events : Session ε Unit).Ends files () left ↔ left = files := by
  simp [Ends, emit, eq_comm]

theorem ends_note_iff (r : LogRecord) (files left : FileTree) :
    (note r : Session ε Unit).Ends files () left ↔ left = files :=
  ends_emit_iff _ files left

theorem ends_emit_if_iff (c : Prop) [Decidable c] (events : List Event) (files left : FileTree) :
    (if c then emit events else pure () : Session ε Unit).Ends files () left ↔ left = files := by
  split
  · exact ends_emit_iff ..
  · rw [ends_pure_iff, eq_self, true_and]

theorem ends_consult_iff (question : FileTree → Attempt ε α) (files left : FileTree) (value : α) :
    (consult question).Ends files value left ↔ (question files).result = .ok value ∧ left = files := by
  simp [Ends, consult, eq_comm]

theorem ends_mapError_iff {ε' : Type} (f : ε → ε') (x : Session ε α) (files left : FileTree)
    (value : α) : (x.mapError f).Ends files value left ↔ x.Ends files value left := by
  rw [Ends, Ends, result_mapError_eq_ok_iff]
  rfl

theorem ends_pathExists_iff (path : String) (files left : FileTree) (found : Bool) :
    (pathExists path : Session ε Bool).Ends files found left ↔
      found = files.exists? path ∧ left = files := by
  simp [Ends, pathExists, eq_comm]

theorem ends_write_iff (path : String) (contents : ByteArray) (files left : FileTree) :
    (write path contents).Ends files () left ↔ files.write path contents = .ok left := by
  rw [Ends, write]
  cases files.write path contents <;> simp

end DiagnosticSieve.Session
