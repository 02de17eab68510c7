import DiagnosticSieve.Proofs.LineText
import DiagnosticSieve.Proofs.TranscriptLines

namespace DiagnosticSieve

open Text

namespace Transcript

theorem diagnostics_ofString_line {line : List Char} (noLineFeed : '\n' ∉ line) :
    (ofString (String.ofList line)).diagnostics =
      ((Header.read? line).map fun h => h.diagnostic []).toList := by
  rw [ofString, String.toList_ofList]
  by_cases empty : line = []
  · rw [empty]
    rfl
  · rw [lines_eq_singleton noLineFeed empty, diagnostics_ofLines_cons]
    exact List.append_nil _

theorem exists_diagnostics_append (before rest : List (List Char)) :
    ∃ front, front.length = (ofLines before).diagnostics.length ∧
      (ofLines (before ++ rest)).diagnostics = front ++ (ofLines rest).diagnostics := by
  induction before with
  | nil => exact ⟨[], rfl, rfl⟩
  | cons line before ih =>
    obtain ⟨front, same, split⟩ := ih
    rw [List.cons_append, diagnostics_ofLines_cons, diagnostics_ofLines_cons, split, ← List.append_assoc]
    refine ⟨_, ?_, rfl⟩
    rw [List.length_append, List.length_append, same]
    cases Header.read? line <;> rfl

/-- A line is a header exactly if it is spelled as one, with a location if there is any such way to
spell it, of which there is one at most. It opens the one diagnostic that says what is spelled,
whatever stands before and behind it. -/
theorem headers_follow_grammar (line : List Char) (noLineFeed : '\n' ∉ line) :
    ((ofString (String.ofList line)).diagnostics ≠ [] ↔ ∃ h : Header, h.Spells line) ∧
    (∀ h other : Header, h.Spells line → other.Spells line →
      h.location.isSome = true → other.location.isSome = true → h = other) ∧
    (∀ (h : Header) (l : Location), h.Spells line → h.location = some l →
      l.file = line.takeWhile (· ≠ ':')) ∧
    ((∃ h : Header, h.Spells line) → ∃ h : Header, h.Preferred line) ∧
    (∀ h : Header, h.Preferred line →
      (∃ d, (ofString (String.ofList line)).diagnostics = [d] ∧ h.Opens d ∧ d.excerpt = []) ∧
      ∀ before after : List (List Char), ∃ d,
        (ofLines (before ++ line :: after)).diagnostics[(ofLines before).diagnostics.length]? = some d ∧
          h.Opens d) ∧
    ∀ before after : List (List Char),
      (ofLines (before ++ line :: after)).diagnostics.length =
        (ofLines before).diagnostics.length + (ofString (String.ofList line)).diagnostics.length +
          (ofLines after).diagnostics.length := by
  have alone := diagnostics_ofString_line noLineFeed
  refine ⟨?header, ?unique, ?file, ?chosen, ?preferred, ?elsewhere⟩
  case header =>
    rw [← Header.exists_read?_iff, alone]
    cases Header.read? line <;> simp
  case unique => exact fun h other spells otherSpells => spells.eq_of_located otherSpells
  case file => exact fun h l spells => spells.file_eq
  case chosen =>
    intro spelled
    obtain ⟨h, read⟩ := Header.exists_read?_iff.mpr spelled
    exact ⟨h, Header.read?_iff_preferred.mp read⟩
  case preferred =>
    intro h preferred
    have read := Header.read?_iff_preferred.mpr preferred
    refine ⟨⟨h.diagnostic [], by rw [alone, read]; rfl, preferred.spells.opens [], rfl⟩, ?_⟩
    intro before after
    obtain ⟨front, same, split⟩ := exists_diagnostics_append before (line :: after)
    refine ⟨_, ?_, preferred.spells.opens (Ending.ofLines after).leading⟩
    rw [split, diagnostics_ofLines_cons, read, List.getElem?_append_right (Nat.le_of_eq same), same,
      Nat.sub_self]
    rfl
  case elsewhere =>
    intro before after
    obtain ⟨front, same, split⟩ := exists_diagnostics_append before (line :: after)
    rw [split, diagnostics_ofLines_cons, alone, List.length_append, List.length_append, same,
      Nat.add_assoc]
    cases Header.read? line <;> rfl

def crowdedLine : List Char := "foo.js:012:٣: ERROR - [A_1] [B] x: WARNING - y".toList

theorem crowdedLine_follows_grammar :
    '\n' ∉ crowdedLine ∧
    ∃ d, (ofString (String.ofList crowdedLine)).diagnostics = [d] ∧
      d.severity = .error ∧ d.key = some "A_1" ∧ d.message = "[B] x: WARNING - y" ∧
      d.file = some "foo.js" ∧ d.line = some 12 ∧ d.column = none := by
  have noLineFeed : '\n' ∉ crowdedLine := by decide
  have read : Header.read? crowdedLine =
      some ⟨some ⟨"foo.js".toList, some "012".toList, some "٣".toList⟩,
        ⟨.error, some "A_1".toList, "[B] x: WARNING - y".toList⟩⟩ := by decide
  obtain ⟨⟨d, alone, opens, _⟩, _⟩ := (headers_follow_grammar crowdedLine noLineFeed).2.2.2.2.1 _
    (Header.read?_iff_preferred.mp read)
  refine ⟨noLineFeed, d, alone, opens.severity, opens.key, opens.message, opens.file, ?_, ?_⟩
  · exact (opens.line 12).mpr ⟨_, rfl, List.all_eq_true.mp rfl, by decide⟩
  · rw [Option.eq_none_iff_forall_ne_some]
    intro n given
    obtain ⟨digits, present, ascii, _⟩ := (opens.column n).mp given
    cases present
    exact absurd (ascii '٣' (by decide)) (by decide)

end Transcript

end DiagnosticSieve
