import DiagnosticSieve.Transcript

/-!
Transcripts from behind. What lines at the end of a text come to does not depend on what stands before
them, but for the plain lines that they start with. So a transcript that is read line by line is one that
is put together from its last line to its first.
-/

namespace DiagnosticSieve.Transcript

/-- The end of a transcript. The plain lines that it starts with belong to whatever stands before. -/
structure Ending where
  leading : List String := []
  diagnostics : List Diagnostic := []
  chatter : List String := []
  deriving DecidableEq, Repr

namespace Ending

def cons (line : List Char) (e : Ending) : Ending :=
  match LineClass.ofLine line with
  | .header h => ⟨[], h.diagnostic e.leading :: e.diagnostics, e.chatter⟩
  | .summary | .blank => ⟨[], e.diagnostics, e.leading ++ e.chatter⟩
  | .plain => { e with leading := String.ofList line :: e.leading }

def ofLines (lines : List (List Char)) : Ending := lines.foldr cons {}

theorem ofLines_cons (line : List Char) (lines : List (List Char)) :
    ofLines (line :: lines) = (ofLines lines).cons line := rfl

end Ending

namespace Partial

theorem last?_eq_some_iff (p : Partial) (last : Diagnostic) :
    p.last? = some last ↔ p.isOpen = true ∧ ∃ before, p.diagnostics = before ++ [last] := by
  rw [last?, Option.ite_none_right_eq_some, List.getLast?_eq_some_iff]

def finish (p : Partial) (e : Ending) : Transcript :=
  match p.last? with
  | some last =>
    ⟨p.diagnostics.dropLast ++ { last with excerpt := last.excerpt ++ e.leading } :: e.diagnostics,
      p.otherLines ++ e.chatter⟩
  | none => ⟨p.diagnostics ++ e.diagnostics, p.otherLines ++ (e.leading ++ e.chatter)⟩

theorem finish_of_closed (p : Partial) (diagnostics : List Diagnostic) (chatter : List String) :
    p.finish ⟨[], diagnostics, chatter⟩ =
      ⟨p.diagnostics ++ diagnostics, p.otherLines ++ chatter⟩ := by
  cases ends : p.last? with
  | none => simp [finish, ends]
  | some last =>
    obtain ⟨_, before, whole⟩ := (p.last?_eq_some_iff last).mp ends
    simp [finish, ends, whole]

theorem last?_keep (p : Partial) (line : String) :
    (p.keep line).last? = p.last?.map fun d => { d with excerpt := d.excerpt ++ [line] } := by
  cases ends : p.last? with
  | none =>
    have kept : p.keep line = { p with otherLines := p.otherLines ++ [line] } := by simp [keep, ends]
    rw [kept]
    exact ends
  | some last =>
    obtain ⟨opened, _⟩ := (p.last?_eq_some_iff last).mp ends
    rw [Option.map_some, last?_eq_some_iff]
    simp [keep, ends, opened]

theorem finish_keep (p : Partial) (line : String) (e : Ending) :
    (p.keep line).finish e = p.finish { e with leading := line :: e.leading } := by
  rw [finish, finish, last?_keep]
  cases ends : p.last? <;> simp [keep, ends]

/-- A line can be taken in from before or from behind. -/
theorem finish_step (p : Partial) (line : List Char) (e : Ending) :
    (p.step line).finish e = p.finish (e.cons line) := by
  rw [step, Ending.cons]
  cases LineClass.ofLine line with
  | plain => exact p.finish_keep (String.ofList line) e
  | header h =>
    rw [finish_of_closed]
    simp [finish, last?, Header.diagnostic]
  | summary | blank =>
    rw [finish_of_closed]
    simp [finish, last?]

theorem finish_foldl (p : Partial) (lines : List (List Char)) (e : Ending) :
    (lines.foldl step p).finish e = p.finish (lines.foldr Ending.cons e) := by
  -- Each line moves from the rest into the transcript that is being read.
  induction lines generalizing p with
  | nil => rfl
  | cons line lines ih => rw [List.foldl_cons, ih, finish_step, List.foldr_cons]

end Partial

theorem ofLines_eq (lines : List (List Char)) :
    ofLines lines =
      ⟨(Ending.ofLines lines).diagnostics,
        (Ending.ofLines lines).leading ++ (Ending.ofLines lines).chatter⟩ := by
  have whole (p : Partial) : p.toTranscript = p.finish {} := by simp [p.finish_of_closed]
  rw [ofLines, whole, Partial.finish_foldl]
  rfl

theorem diagnostics_ofLines_eq (lines : List (List Char)) :
    (ofLines lines).diagnostics = (Ending.ofLines lines).diagnostics := by rw [ofLines_eq]

end DiagnosticSieve.Transcript
