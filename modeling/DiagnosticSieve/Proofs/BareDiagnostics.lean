import DiagnosticSieve.Proofs.HeaderReadings
import DiagnosticSieve.Proofs.HeaderText

/-!
Headers without a location. Such a header is read back as long as its message does not go on like a
header behind its first colon: then all that is before the colon, the severity included, is taken for
the name of a file.
-/

namespace DiagnosticSieve

open Text

namespace HeaderBody

/-- A message goes on like a header of some severity behind its first colon. -/
structure Reopens (message front : List Char) (severity : Severity) : Prop where
  noColon : ':' ∉ front
  goesOn : ∃ line column positions rest, Location.Positions line column positions ∧
    message = front ++ ':' :: (positions ++ (lead severity ++ rest))

theorem restText_eq_append (key : Option (List Char)) (message : List Char) :
    restText key message = restText key [] ++ message := by
  cases key <;> simp [restText]

theorem mem_lead_append_restText {severity : Severity} {key : Option (List Char)}
    (isKey : ∀ k ∈ key, IsKey k) {c : Char} (member : c ∈ lead severity ++ restText key []) :
    isKeyChar c = true ∨ c ∈ [' ', '-', '[', ']'] := by
  rcases List.mem_append.mp member with inLead | inRest
  · have all : (lead severity).all (fun d => isKeyChar d = true ∨ d ∈ [' ', '-', '[', ']']) = true := by
      cases severity <;> decide
    exact of_decide_eq_true (List.all_eq_true.mp all c inLead)
  · cases key with
    | none => cases inRest
    | some k =>
      simp only [restText, List.mem_cons, List.mem_append, List.not_mem_nil, or_false] at inRest
      rcases inRest with rfl | inKey | rfl | rfl
      · decide
      · exact .inl ((isKey k rfl).keyChar c inKey)
      · decide
      · decide

theorem colon_not_mem_lead_append {severity : Severity} {key : Option (List Char)}
    (isKey : ∀ k ∈ key, IsKey k) : ':' ∉ lead severity ++ restText key [] := fun colon =>
  absurd (mem_lead_append_restText isKey colon) (by decide)

theorem isFile_lead_append {severity : Severity} {key : Option (List Char)}
    (isKey : ∀ k ∈ key, IsKey k) {front : List Char} (noColon : ':' ∉ front) :
    Location.IsFile (lead severity ++ restText key [] ++ front) where
  shows := by
    cases severity
    · exact ⟨'W', _, rfl, by decide⟩
    · exact ⟨'E', _, rfl, by decide⟩
  noColon colon := by
    rcases List.mem_append.mp colon with before | inFront
    · exact colon_not_mem_lead_append isKey before
    · exact noColon inFront

end HeaderBody

open HeaderBody

variable {severity : Severity} {key : Option (List Char)} {message : List Char}

/-- A header without a location can only be read with one in a message that goes on like a header. -/
theorem Header.Spells.reopens (isKey : ∀ k ∈ key, IsKey k) {h : Header} {l : Location}
    (spells : h.Spells (lead severity ++ restText key message)) (located : h.location = some l) :
    ∃ front, Reopens message front h.body.severity ∧
      l.file = lead severity ++ restText key [] ++ front := by
  have file := spells.file_eq located
  rw [restText_eq_append, ← List.append_assoc] at spells file
  rw [List.takeWhile_append_of_pos (ne_of_absent (colon_not_mem_lead_append isKey))] at file
  refine ⟨message.takeWhile (· ≠ ':'), ⟨fun colon => by simpa using of_mem_takeWhile colon, ?_⟩, file⟩
  generalize same : lead severity ++ restText key [] ++ message = line at spells
  obtain @⟨location, rest, placed, _⟩ := spells
  rw [located] at placed
  cases placed with
  | @present _ positions _ behind =>
    refine ⟨_, _, positions, rest, behind, List.append_cancel_left (same.trans ?_)⟩
    simp only [file, List.append_assoc, List.cons_append]

theorem HeaderBody.Reopens.exists_readLocated? {front : List Char} {other : Severity}
    (reopens : Reopens message front other) (severity : Severity) (isKey : ∀ k ∈ key, IsKey k) :
    ∃ h l, Header.readLocated? (lead severity ++ restText key message) = some h ∧
      h.body.severity = other ∧ h.location = some l ∧
      l.file = lead severity ++ restText key [] ++ front := by
  obtain ⟨noColon, line, column, positions, rest, behind, rfl⟩ := reopens
  let l : Location := ⟨lead severity ++ restText key [] ++ front, line, column⟩
  have placed : Location.Spells (some l) (l.file ++ ':' :: positions) :=
    .present (isFile_lead_append isKey noColon) behind
  have tells : Tells rest (ofRest other rest).key (ofRest other rest).message :=
    (splitKey_eq_iff ..).mp rfl
  have spells : Header.Spells ⟨some l, ofRest other rest⟩
      (l.file ++ ':' :: positions ++ (lead other ++ rest)) := .parts placed tells
  refine ⟨⟨some l, ofRest other rest⟩, l, Header.readLocated?_iff_spells.mpr ⟨rfl, ?_⟩, rfl, rfl, rfl⟩
  rw [restText_eq_append]
  simpa [l] using spells

/-- A header without a location keeps severity, key and message exactly if the message does not go on
like a header behind its first colon. If it does, the severity is that of the message, and all that is
before the colon is taken for a file. -/
theorem bare_header_kept_iff (severity : Severity) (key : Option (List Char)) (message : List Char)
    (isKey : ∀ k ∈ key, IsKey k)
    (noKey : key = none → ∀ k rest, IsKey k → message ≠ '[' :: (k ++ ']' :: ' ' :: rest))
    (noLineFeed : '\n' ∉ message) :
    ((Transcript.ofString (String.ofList (lead severity ++ restText key message))).diagnostics =
        [{ severity, key := key.map String.ofList, message := String.ofList message }] ↔
      ∀ front other, ¬ Reopens message front other) ∧
    ∀ front other, Reopens message front other →
      ∃ d, (Transcript.ofString (String.ofList (lead severity ++ restText key message))).diagnostics =
          [d] ∧
        d.severity = other ∧ d.file = some (String.ofList (lead severity ++ restText key front)) := by
  have whole : '\n' ∉ lead severity ++ restText key message := by
    rw [restText_eq_append, ← List.append_assoc, List.mem_append, not_or]
    exact ⟨fun feed => absurd (mem_lead_append_restText isKey feed) (by decide), noLineFeed⟩
  have tells : Tells (restText key message) key message := by
    cases key with
    | none => exact .bare (noKey rfl)
    | some k => exact .keyed (isKey k rfl) rfl
  have bare : Header.Spells ⟨none, severity, key, message⟩ (lead severity ++ restText key message) :=
    Header.spells_of_bare rfl tells
  have alone := Transcript.diagnostics_ofString_line whole
  refine ⟨⟨?_, ?_⟩, ?_⟩
  · intro kept front other reopens
    obtain ⟨h, l, found, _, located, _⟩ := reopens.exists_readLocated? severity isKey
    rw [alone, (Header.read?_eq_some_iff ..).mpr (.inl found)] at kept
    have file := congrArg Diagnostic.file (List.cons.inj kept).1
    simp [Header.diagnostic, located] at file
  · intro closed
    have unplaced (other : Header)
        (spells : other.Spells (lead severity ++ restText key message)) : other.location = none := by
      cases located : other.location with
      | none => rfl
      | some l =>
        obtain ⟨front, reopens, _⟩ := spells.reopens isKey located
        exact absurd reopens (closed front _)
    rw [alone, Header.read?_iff_preferred.mpr ⟨bare, fun _ => unplaced⟩]
    rfl
  · intro front other reopens
    obtain ⟨h, l, found, same, located, file⟩ := reopens.exists_readLocated? severity isKey
    have read := (Header.read?_eq_some_iff ..).mpr (.inl found)
    refine ⟨h.diagnostic [], by rw [alone, read]; rfl, same, ?_⟩
    simp [Header.diagnostic, located, file, restText_eq_append key front]

theorem bare_headers_kept_and_not :
    (Transcript.ofString "WARNING - [K] a: [X] ERROR - b").diagnostics =
      [{ severity := .warning, key := some "K", message := "a: [X] ERROR - b" }] ∧
    ∃ d, (Transcript.ofString "ERROR - see a.js:3: WARNING - b").diagnostics = [d] ∧
      d.severity = .warning ∧ d.file = some "ERROR - see a.js" := by
  have isKey : ∀ k ∈ some ['K'], IsKey k := by
    rintro k ⟨⟩
    exact ⟨by decide, List.all_eq_true.mp rfl⟩
  have noKey : ∀ k ∈ (none : Option (List Char)), IsKey k := by rintro k ⟨⟩
  constructor
  · refine (bare_header_kept_iff .warning (some ['K']) "a: [X] ERROR - b".toList isKey (by rintro ⟨⟩)
      (by decide)).1.mpr fun front other reopens => ?_
    obtain ⟨h, _, found, _⟩ := reopens.exists_readLocated? .warning isKey
    have unplaced : Header.readLocated? "WARNING - [K] a: [X] ERROR - b".toList = none := by decide
    exact absurd (unplaced.symm.trans found) nofun
  · exact (bare_header_kept_iff .error none "see a.js:3: WARNING - b".toList noKey
      (by rintro - k rest - same; cases same) (by decide)).2 "see a.js".toList .warning
      ⟨by decide, some ['3'], none, _, ['b'], .line ⟨by decide, List.all_eq_true.mp rfl⟩, rfl⟩

/-- A header without a location does not always keep its severity and its message. -/
theorem bare_header_lost :
    ¬ ∀ (severity : Severity) (key : Option (List Char)) (message : List Char),
      (∀ k ∈ key, IsKey k) →
      (key = none → ∀ k rest, IsKey k → message ≠ '[' :: (k ++ ']' :: ' ' :: rest)) →
      '\n' ∉ message →
        (Transcript.ofString (String.ofList (lead severity ++ restText key message))).diagnostics =
          [{ severity, key := key.map String.ofList, message := String.ofList message }] := by
  intro kept
  have same := kept .error none "a: WARNING - b".toList (by rintro k ⟨⟩)
    (by rintro - k rest - same; cases same) (by decide)
  exact absurd same (by decide)

end DiagnosticSieve
