import DiagnosticSieve.Session

namespace DiagnosticSieve

namespace Session

variable {ε α β : Type}

theorem result_bind_eq_ok_iff (x : Session ε α) (next : α → Session ε β) (files : FileTree)
    (last : β) :
    ((x >>= next) files).result = .ok last ↔
      ∃ value, (x files).result = .ok value ∧ (next value (x files).files).result = .ok last := by
  cases first : (x files).result with
  | error e => simp [bind_apply_error x next files e first]
  | ok value => simp [bind_apply_ok x next files value first]

theorem result_bind_eq_error_iff (x : Session ε α) (next : α → Session ε β) (files : FileTree) (e : ε) :
    ((x >>= next) files).result = .error e ↔
      (x files).result = .error e ∨
        ∃ value, (x files).result = .ok value ∧ (next value (x files).files).result = .error e := by
  cases first : (x files).result with
  | error e' => simp [bind_apply_error x next files e' first]
  | ok value => simp [bind_apply_ok x next files value first]

theorem result_mapError_eq_ok_iff {ε' : Type} (f : ε → ε') (x : Session ε α) (files : FileTree)
    (value : α) : ((x.mapError f) files).result = .ok value ↔ (x files).result = .ok value := by
  cases first : (x files).result <;> simp [mapError, first]

theorem result_mapError_eq_error_iff {ε' : Type} (f : ε → ε') (x : Session ε α) (files : FileTree)
    (e' : ε') : ((x.mapError f) files).result = .error e' ↔ ∃ e, (x files).result = .error e ∧ f e = e' := by
  cases first : (x files).result <;> simp [mapError, first]

def Emits (p : Event → Prop) (x : Session ε α) : Prop :=
  ∀ files, ∀ event ∈ (x files).events, p event

variable {p : Event → Prop}

theorem Emits.pure (value : α) : Emits p (pure value : Session ε α) := by
  intro files event member
  cases member

theorem Emits.bind {x : Session ε α} {next : α → Session ε β} (first : Emits p x)
    (rest : ∀ value, Emits p (next value)) : Emits p (x >>= next) := by
  intro files event member
  cases done : (x files).result with
  | error e =>
    rw [bind_apply_error x next files e done] at member
    exact first files event member
  | ok value =>
    rw [bind_apply_ok x next files value done] at member
    rcases List.mem_append.mp member with early | late
    · exact first files event early
    · exact rest value (x files).files event late

theorem Emits.emit {events : List Event} (each : ∀ event ∈ events, p event) :
    Emits p (emit events : Session ε Unit) := by
  intro files event member
  exact each event member

theorem Emits.write (path : String) (contents : ByteArray) : Emits p (write path contents) := by
  intro files event member
  unfold Session.write at member
  cases written : files.write path contents <;> simp [written] at member

theorem Emits.pathExists (path : String) : Emits p (pathExists path : Session ε Bool) := by
  intro files event member
  cases member

theorem Emits.mapError {ε' : Type} {x : Session ε α} (f : ε → ε') (each : Emits p x) :
    Emits p (x.mapError f) := each

theorem Emits.ite {x y : Session ε α} (c : Prop) [Decidable c] (yes : Emits p x) (no : Emits p y) :
    Emits p (if c then x else y) := by
  split
  · exact yes
  · exact no

end Session

namespace Event

/-- A log record or a text: what a run adds to what its compiler shows. -/
def IsMessage : Event → Prop
  | record _ | text _ => True
  | _ => False

def startArguments? : Event → Option (List String)
  | started arguments => some arguments
  | _ => none

theorem IsMessage.startArguments? {event : Event} (message : event.IsMessage) :
    event.startArguments? = none := by
  cases event with
  | record r => rfl
  | text lines => rfl
  | output bytes => exact message.elim
  | started arguments => exact message.elim

end Event

theorem Progress.compilerArguments_eq {ε α : Type} (progress : Progress ε α) :
    progress.compilerArguments = progress.events.findSome? Event.startArguments? := rfl

theorem findSome?_startArguments?_of_messages (events : List Event)
    (messages : ∀ event ∈ events, event.IsMessage) :
    events.findSome? Event.startArguments? = none :=
  List.findSome?_eq_none_iff.mpr fun event member => (messages event member).startArguments?

theorem Progress.errorText_records_append {ε α : Type} (records : List LogRecord)
    (events : List Event) (files : FileTree) (result : Except ε α) :
    (⟨records.map .record ++ events, files, result⟩ : Progress ε α).errorText =
      (⟨events, files, result⟩ : Progress ε α).errorText := by
  induction records with
  | nil => rfl
  | cons r records ih =>
    rw [← ih]
    simp only [errorText, List.map_cons, List.cons_append, String.join_cons, String.empty_append]

end DiagnosticSieve
