import DiagnosticSieve.Proofs.HeaderText
import DiagnosticSieve.Proofs.LineText
import DiagnosticSieve.Proofs.TranscriptLoop

namespace DiagnosticSieve

open Text

namespace LineClass

theorem ofLine_eq_header_iff (line : List Char) (h : Header) :
    ofLine line = .header h ↔ Header.read? line = some h := by
  rw [ofLine]
  cases Header.read? line with
  | some found => simp
  | none =>
    simp only [reduceCtorEq, iff_false]
    split
    · simp
    · split <;> simp

theorem ofLine_eq_plain_iff (line : List Char) :
    ofLine line = .plain ↔
      Header.read? line = none ∧ isSummary line = false ∧ allBlank line = false := by
  rw [ofLine]
  cases Header.read? line with
  | some found => simp
  | none => cases isSummary line <;> cases allBlank line <;> simp

end LineClass

theorem HeaderBody.read?_cons_eq_none {c : Char} (noError : c ≠ 'E') (noWarning : c ≠ 'W')
    (rest : List Char) : HeaderBody.read? (c :: rest) = none := by
  have differs {w : Char} (word : List Char) (other : c ≠ w) :
      after? (w :: word) (c :: rest) = none := by
    rw [after?, if_neg other.symm]
  have error : "ERROR - ".toList = 'E' :: "RROR - ".toList := rfl
  have warning : "WARNING - ".toList = 'W' :: "ARNING - ".toList := rfl
  rw [HeaderBody.read?, error, warning, differs _ noError, differs _ noWarning]
  rfl

theorem Header.read?_cons_eq_none {c : Char} {rest : List Char}
    (unplaced : Location.read? (c :: rest) = none) (noError : c ≠ 'E') (noWarning : c ≠ 'W') :
    Header.read? (c :: rest) = none := by
  rw [Header.read?, readLocated?, unplaced, readBare?, HeaderBody.read?_cons_eq_none noError noWarning]
  rfl

theorem Location.read?_eq_none_of_space (rest : List Char) : Location.read? (' ' :: rest) = none := by
  rw [Option.eq_none_iff_forall_not_mem]
  intro ⟨l, body⟩ found
  obtain ⟨⟨⟨c, more, file, shows⟩, _⟩, after, spelled, _⟩ := Location.read?_eq_some found
  rw [file, List.cons_append] at spelled
  rw [← (List.cons.inj spelled).1] at shows
  cases shows

theorem Location.read?_eq_none_of_no_colon {line : List Char} (noColon : ':' ∉ line) :
    Location.read? line = none := by
  rw [Option.eq_none_iff_forall_not_mem]
  intro ⟨l, body⟩ found
  obtain ⟨_, after, spelled, _⟩ := Location.read?_eq_some found
  exact noColon (by simp [spelled])

namespace LineClass

theorem ofLine_space_cons {rest : List Char} (visible : allBlank rest = false) :
    ofLine (' ' :: rest) = .plain := by
  rw [ofLine_eq_plain_iff]
  refine ⟨?_, rfl, ?_⟩
  · exact Header.read?_cons_eq_none (Location.read?_eq_none_of_space rest) (by decide) (by decide)
  · rw [allBlank, List.all_cons]
    exact visible

def IsSummary (line : List Char) : Prop :=
  ∃ errors warnings rest, IsNumber errors ∧ IsNumber warnings ∧
    line = errors ++ (" error(s), ".toList ++ (warnings ++ (" warning(s)".toList ++ rest)))

theorem afterNumber?_append {digits : List Char} (number : IsNumber digits) {stop : Char}
    (outside : isDecimalDigit stop = false) (rest : List Char) :
    afterNumber? (digits ++ stop :: rest) = some (stop :: rest) := by
  obtain ⟨run, left⟩ := number.span stop rest outside
  rw [afterNumber?, run, left, if_neg number.nonempty]

theorem afterNumber?_sound {text rest : List Char} (found : afterNumber? text = some rest) :
    ∃ digits, IsNumber digits ∧ text = digits ++ rest := by
  rw [afterNumber?] at found
  split at found
  · cases found
  · next some =>
    cases found
    exact ⟨_, isNumber_takeWhile some, List.takeWhile_append_dropWhile.symm⟩

theorem isSummary_iff (line : List Char) : isSummary line = true ↔ IsSummary line := by
  rw [isSummary, Option.isSome_iff_exists]
  constructor
  · rintro ⟨rest, found⟩
    obtain ⟨afterErrors, counted, found⟩ := Option.bind_eq_some_iff.mp found
    obtain ⟨afterWord, word, found⟩ := Option.bind_eq_some_iff.mp found
    obtain ⟨afterWarnings, countedToo, last⟩ := Option.bind_eq_some_iff.mp found
    obtain ⟨errors, number, rfl⟩ := afterNumber?_sound counted
    obtain ⟨warnings, numberToo, rfl⟩ := afterNumber?_sound countedToo
    rw [after?_eq_some_iff] at word last
    exact ⟨errors, warnings, rest, number, numberToo, by rw [word, last]⟩
  · rintro ⟨errors, warnings, rest, number, numberToo, rfl⟩
    have counted (more : List Char) : afterNumber? (errors ++ (" error(s), ".toList ++ more)) =
        some (" error(s), ".toList ++ more) := afterNumber?_append number (by decide) _
    have countedToo : afterNumber? (warnings ++ (" warning(s)".toList ++ rest)) =
        some (" warning(s)".toList ++ rest) := afterNumber?_append numberToo (by decide) _
    have afterWord (word more : List Char) : after? word (word ++ more) = some more :=
      (after?_eq_some_iff ..).mpr rfl
    exact ⟨rest, by simp only [counted, countedToo, afterWord, Option.bind_eq_bind, Option.bind_some]⟩

theorem toList_summaryLine (errors warnings : Nat) :
    (summaryLine errors warnings).toList =
      Nat.toDigits 10 errors ++ (" error(s), ".toList ++
        (Nat.toDigits 10 warnings ++ " warning(s)".toList)) := by
  simp [summaryLine, String.toList_append, Nat.toString_eq_repr, Nat.toList_repr, List.append_assoc]

theorem isSummary_summaryLine (errors warnings : Nat) :
    isSummary (summaryLine errors warnings).toList = true := by
  rw [isSummary_iff, toList_summaryLine]
  exact ⟨_, _, [], isNumber_toDigits errors, isNumber_toDigits warnings, by rw [List.append_nil]⟩

theorem mem_summaryLine {errors warnings : Nat} {c : Char}
    (member : c ∈ (summaryLine errors warnings).toList) :
    c.isDigit = true ∨ c ∈ " error(s), ".toList ∨ c ∈ " warning(s)".toList := by
  have digit {n : Nat} (inside : c ∈ Nat.toDigits 10 n) : c.isDigit = true :=
    Nat.isDigit_of_mem_toDigits (by decide) (by decide) inside
  rw [toList_summaryLine, List.mem_append, List.mem_append, List.mem_append] at member
  rcases member with errors | word | warnings | word
  · exact .inl (digit errors)
  · exact .inr (.inl word)
  · exact .inl (digit warnings)
  · exact .inr (.inr word)

theorem read?_summaryLine (errors warnings : Nat) :
    Header.read? (summaryLine errors warnings).toList = none := by
  obtain ⟨c, more, digits⟩ := List.exists_cons_of_ne_nil (Nat.toDigits_ne_nil (n := errors) (b := 10))
  have digit : c.isDigit = true :=
    Nat.isDigit_of_mem_toDigits (by decide) (by decide) (digits ▸ List.mem_cons_self)
  have noColon : ':' ∉ (summaryLine errors warnings).toList := fun colon =>
    absurd (mem_summaryLine colon) (by decide)
  have unplaced := Location.read?_eq_none_of_no_colon noColon
  rw [toList_summaryLine, digits, List.cons_append] at unplaced ⊢
  apply Header.read?_cons_eq_none unplaced
  · rintro rfl
    cases digit
  · rintro rfl
    cases digit

theorem ofLine_summaryLine (errors warnings : Nat) :
    ofLine (summaryLine errors warnings).toList = .summary := by
  rw [ofLine, read?_summaryLine]
  simp [isSummary_summaryLine]

theorem isLine_summaryLine (errors warnings : Nat) : IsLine (summaryLine errors warnings).toList where
  noLineFeed feed := absurd (mem_summaryLine feed) (by decide)
  noReturn back := absurd (mem_summaryLine back) (by decide)
  nonempty empty := by
    have summary := isSummary_summaryLine errors warnings
    rw [empty] at summary
    cases summary

end LineClass

namespace Transcript

namespace Ending

theorem foldr_cons_plain (texts : List String)
    (plain : ∀ x ∈ texts, LineClass.ofLine x.toList = .plain) (e : Ending) :
    (texts.map String.toList).foldr cons e = { e with leading := texts ++ e.leading } := by
  induction texts with
  | nil => rfl
  | cons x texts ih =>
    rw [List.map_cons, List.foldr_cons,
      ih fun y member => plain y (List.mem_cons_of_mem x member), cons, plain x List.mem_cons_self]
    simp

end Ending

/-- A diagnostic stands in some lines: one of them is its header, and its excerpt are plain ones. -/
structure Stands (lines : List (List Char)) (d : Diagnostic) : Prop where
  opened : ∃ line ∈ lines, ∃ h, Header.read? line = some h ∧ h.diagnostic d.excerpt = d
  plain : ∀ x ∈ d.excerpt, x.toList ∈ lines ∧ LineClass.ofLine x.toList = .plain

theorem Stands.cons {lines : List (List Char)} {d : Diagnostic} (stands : Stands lines d)
    (line : List Char) : Stands (line :: lines) d := by
  obtain ⟨⟨opener, member, h, found, same⟩, plain⟩ := stands
  exact ⟨⟨opener, List.mem_cons_of_mem line member, h, found, same⟩,
    fun x inside => (plain x inside).imp_left (List.mem_cons_of_mem line)⟩

structure Ending.ReadFrom (e : Ending) (lines : List (List Char)) : Prop where
  leading : ∀ x ∈ e.leading, x.toList ∈ lines ∧ LineClass.ofLine x.toList = .plain
  diagnostics : ∀ d ∈ e.diagnostics, Stands lines d

theorem Ending.ReadFrom.cons {e : Ending} {lines : List (List Char)} (drawn : e.ReadFrom lines)
    (line : List Char) : (e.cons line).ReadFrom (line :: lines) := by
  have leading (x : String) (member : x ∈ e.leading) :=
    (drawn.leading x member).imp_left (List.mem_cons_of_mem line)
  have diagnostics (d : Diagnostic) (member : d ∈ e.diagnostics) :=
    (drawn.diagnostics d member).cons line
  have none (x : String) (member : x ∈ ([] : List String)) :
      x.toList ∈ line :: lines ∧ LineClass.ofLine x.toList = .plain := by cases member
  cases kind : LineClass.ofLine line with
  | header h =>
    rw [Ending.cons, kind]
    refine ⟨none, fun d member => ?_⟩
    rcases List.mem_cons.mp member with rfl | later
    · have found := (LineClass.ofLine_eq_header_iff line h).mp kind
      exact ⟨⟨line, List.mem_cons_self, h, found, rfl⟩, leading⟩
    · exact diagnostics d later
  | summary =>
    rw [Ending.cons, kind]
    exact ⟨none, diagnostics⟩
  | blank =>
    rw [Ending.cons, kind]
    exact ⟨none, diagnostics⟩
  | plain =>
    rw [Ending.cons, kind]
    refine ⟨fun x member => ?_, diagnostics⟩
    rcases List.mem_cons.mp member with rfl | later
    · simp [kind]
    · exact leading x later

theorem Ending.readFrom_ofLines (lines : List (List Char)) : (ofLines lines).ReadFrom lines := by
  induction lines with
  | nil => exact ⟨by simp [ofLines], by simp [ofLines]⟩
  | cons line lines ih => exact ih.cons line

/-- Each diagnostic of a transcript stands in its lines. -/
theorem stands_of_mem_ofLines {lines : List (List Char)} {d : Diagnostic}
    (member : d ∈ (ofLines lines).diagnostics) : Stands lines d := by
  rw [ofLines_eq] at member
  exact (Ending.readFrom_ofLines lines).diagnostics d member

end Transcript

end DiagnosticSieve
