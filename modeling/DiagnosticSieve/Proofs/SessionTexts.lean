import DiagnosticSieve.Proofs.SessionEvents

namespace DiagnosticSieve

def Event.shownText : Event → String
  | text lines => lines ++ "\n"
  | _ => ""

theorem Progress.errorText_eq {ε α : Type} (p : Progress ε α) :
    p.errorText = String.join (p.events.map Event.shownText) := by
  rw [errorText]
  congr 2

theorem join_shownText_of_silent (events : List Event)
    (silent : ∀ event ∈ events, event.shownText = "") :
    String.join (events.map Event.shownText) = "" := by
  induction events with
  | nil => rfl
  | cons event events ih =>
    rw [List.map_cons, String.join_cons, silent event List.mem_cons_self,
      ih fun other member => silent other (List.mem_cons_of_mem event member)]
    rfl

theorem join_shownText_records (records : List LogRecord) :
    String.join ((records.map Event.record).map Event.shownText) = "" := by
  apply join_shownText_of_silent
  intro event member
  obtain ⟨r, _, rfl⟩ := List.mem_map.mp member
  rfl

namespace Session

variable {ε α β : Type}

theorem errorText_bind {x : Session ε α} {next : α → Session ε β} {files : FileTree} {value : α}
    (done : (x files).result = .ok value) :
    ((x >>= next) files).errorText =
      (x files).errorText ++ (next value (x files).files).errorText := by
  rw [bind_apply_ok x next files value done, Progress.errorText_eq, Progress.errorText_eq,
    Progress.errorText_eq, List.map_append, String.join_append]

/-- Whether a session leaves the standard error stream alone, but for log records. -/
def Mute (x : Session ε α) : Prop := Emits (fun event => event.shownText = "") x

theorem Mute.errorText {x : Session ε α} (mute : x.Mute) (files : FileTree) :
    (x files).errorText = "" := by
  rw [Progress.errorText_eq]
  exact join_shownText_of_silent _ (mute files)

theorem Mute.errorText_bind {x : Session ε α} {next : α → Session ε β} {files : FileTree} {last : β}
    (mute : x.Mute) (finished : ((x >>= next) files).result = .ok last) :
    ∃ value, (x files).result = .ok value ∧ (next value (x files).files).result = .ok last ∧
      ((x >>= next) files).errorText = (next value (x files).files).errorText := by
  rcases (result_bind_eq_ok_iff ..).mp finished with ⟨value, done, rest⟩
  refine ⟨value, done, rest, ?_⟩
  rw [Session.errorText_bind done, mute.errorText, String.empty_append]

theorem mute_consult (question : FileTree → Attempt ε α) : (consult question).Mute := by
  intro files event member
  rcases List.mem_map.mp member with ⟨r, _, rfl⟩
  rfl

end Session

end DiagnosticSieve
