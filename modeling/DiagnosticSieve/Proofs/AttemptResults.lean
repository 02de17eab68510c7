import DiagnosticSieve.Log

namespace DiagnosticSieve

instance decidableEqExcept {ε α : Type} [DecidableEq ε] [DecidableEq α] : DecidableEq (Except ε α)
  | .error e, .error e' => decidable_of_iff (e = e') ⟨congrArg _, Except.error.inj⟩
  | .ok value, .ok value' => decidable_of_iff (value = value') ⟨congrArg _, Except.ok.inj⟩
  | .error _, .ok _ => isFalse nofun
  | .ok _, .error _ => isFalse nofun

namespace Attempt

variable {ε α β : Type}

@[simp] theorem result_pure (value : α) : (pure value : Attempt ε α).result = .ok value := rfl

@[simp] theorem result_refuse (e : ε) : (refuse e : Attempt ε α).result = .error e := rfl

@[simp] theorem result_lift (result : Except ε α) : (lift result).result = result := rfl

theorem result_bind_of_ok (x : Attempt ε α) (next : α → Attempt ε β) (value : α)
    (done : x.result = .ok value) : (x >>= next).result = (next value).result := by
  simp only [bind_def, Attempt.bind, done]

theorem result_bind_of_error (x : Attempt ε α) (next : α → Attempt ε β) (e : ε)
    (refused : x.result = .error e) : (x >>= next).result = .error e := by
  simp only [bind_def, Attempt.bind, refused]

theorem result_bind_eq_ok_iff (x : Attempt ε α) (next : α → Attempt ε β) (last : β) :
    (x >>= next).result = .ok last ↔ ∃ value, x.result = .ok value ∧ (next value).result = .ok last := by
  cases first : x.result with
  | error e => simp [result_bind_of_error x next e first]
  | ok value => simp [result_bind_of_ok x next value first]

theorem result_bind_eq_error_iff (x : Attempt ε α) (next : α → Attempt ε β) (e : ε) :
    (x >>= next).result = .error e ↔
      x.result = .error e ∨ ∃ value, x.result = .ok value ∧ (next value).result = .error e := by
  cases first : x.result with
  | error e' => simp [result_bind_of_error x next e' first]
  | ok value => simp [result_bind_of_ok x next value first]

theorem foldlM_keeps {p : β → Prop} {step : β → α → Attempt ε β}
    (kept : ∀ state item next, p state → (step state item).result = .ok next → p next)
    (items : List α) (first last : β) (start : p first)
    (done : (items.foldlM step first).result = .ok last) : p last := by
  induction items generalizing first with
  | nil =>
    cases done
    exact start
  | cons item items ih =>
    rw [List.foldlM_cons, result_bind_eq_ok_iff] at done
    obtain ⟨next, stepped, rest⟩ := done
    exact ih next (kept first item next start stepped) rest

theorem result_mapError_eq_ok_iff {ε' : Type} (f : ε → ε') (x : Attempt ε α) (value : α) :
    (x.mapError f).result = .ok value ↔ x.result = .ok value := by
  cases first : x.result <;> simp [mapError, first]

theorem result_mapError_eq_error_iff {ε' : Type} (f : ε → ε') (x : Attempt ε α) (e' : ε') :
    (x.mapError f).result = .error e' ↔ ∃ e, x.result = .error e ∧ f e = e' := by
  cases first : x.result <;> simp [mapError, first]

end Attempt

end DiagnosticSieve
