namespace DiagnosticSieve

inductive Level
  | error | warn | info | debug | trace
  deriving DecidableEq, Repr

namespace Level

def name : Level → String
  | error => "ERROR"
  | warn => "WARN"
  | info => "INFO"
  | debug => "DEBUG"
  | trace => "TRACE"

def rank : Level → Nat
  | error => 1
  | warn => 2
  | info => 3
  | debug => 4
  | trace => 5

def ofRank? : Nat → Option Level
  | 1 => some error
  | 2 => some warn
  | 3 => some info
  | 4 => some debug
  | 5 => some trace
  | _ => none

end Level

structure LogRecord where
  level : Level
  message : String
  deriving DecidableEq, Repr

namespace LogRecord

def info (message : String) : LogRecord := ⟨.info, message⟩

def debug (message : String) : LogRecord := ⟨.debug, message⟩

def passes (r : LogRecord) (limit : Option Level) : Bool :=
  limit.any fun level => r.level.rank ≤ level.rank

end LogRecord

/-- A computation that writes log records and may be refused. The records written before a
refusal stay. -/
structure Attempt (ε α : Type) where
  records : List LogRecord
  result : Except ε α

namespace Attempt

variable {ε α β : Type}

protected def pure (value : α) : Attempt ε α := ⟨[], .ok value⟩

def refuse (e : ε) : Attempt ε α := ⟨[], .error e⟩

def note (r : LogRecord) : Attempt ε Unit := ⟨[r], .ok ()⟩

def lift (result : Except ε α) : Attempt ε α := ⟨[], result⟩

protected def bind (x : Attempt ε α) (next : α → Attempt ε β) : Attempt ε β :=
  match x.result with
  | .ok value => ⟨x.records ++ (next value).records, (next value).result⟩
  | .error e => ⟨x.records, .error e⟩

instance : Monad (Attempt ε) where
  pure := Attempt.pure
  bind := Attempt.bind

theorem bind_def (x : Attempt ε α) (next : α → Attempt ε β) : x >>= next = x.bind next := rfl

theorem pure_def (value : α) : (pure value : Attempt ε α) = ⟨[], .ok value⟩ := rfl

theorem bind_assoc {γ : Type} (x : Attempt ε α) (f : α → Attempt ε β) (g : β → Attempt ε γ) :
    (x.bind f).bind g = x.bind fun value => (f value).bind g := by
  obtain ⟨records, result⟩ := x
  cases result with
  | error e => rfl
  | ok value =>
    simp only [Attempt.bind]
    cases (f value).result <;> simp

instance : LawfulMonad (Attempt ε) :=
  LawfulMonad.mk' (Attempt ε)
    (by
      intro α x
      obtain ⟨records, result⟩ := x
      cases result <;> simp [Functor.map, Attempt.bind, Attempt.pure])
    (by simp [bind_def, pure_def, Attempt.bind])
    (by simp [bind_def, bind_assoc])

@[simp] theorem mapError_ok {ε' : Type} (f : ε → ε') (value : α) :
    (Except.ok value : Except ε α).mapError f = .ok value := rfl

@[simp] theorem mapError_error {ε' : Type} (f : ε → ε') (e : ε) :
    (Except.error e : Except ε α).mapError f = .error (f e) := rfl

def mapError {ε' : Type} (f : ε → ε') (x : Attempt ε α) : Attempt ε' α :=
  ⟨x.records, x.result.mapError f⟩

end Attempt

end DiagnosticSieve
