import DiagnosticSieve.Proofs.HeaderMeaning
import DiagnosticSieve.Proofs.TranscriptBlocks
import Mathlib.Data.List.Forall2

/-!
What becomes of each line of a transcript. A header opens a diagnostic, the plain lines directly
behind it are its excerpt, and every other plain line is logged.
-/

namespace DiagnosticSieve

open Text

structure IsPlain (line : List Char) : Prop where
  noHeader : ¬ IsHeader line
  noSummary : ¬ LineClass.IsSummary line
  visible : trim line ≠ []

theorem isPlain_iff (line : List Char) : IsPlain line ↔ LineClass.ofLine line = .plain := by
  rw [LineClass.ofLine_eq_plain_iff, ← Option.not_isSome_iff_eq_none, ← isHeader_iff,
    ← Bool.not_eq_true, ← Bool.not_eq_true, LineClass.isSummary_iff, ← trim_eq_nil_iff]
  exact ⟨fun plain => ⟨plain.noHeader, plain.noSummary, plain.visible⟩,
    fun ⟨noHeader, noSummary, visible⟩ => ⟨noHeader, noSummary, visible⟩⟩

instance : DecidablePred IsPlain := fun line =>
  decidable_of_iff (LineClass.ofLine line = .plain) (isPlain_iff line).symm

namespace Transcript

def excerptAt (lines : List (List Char)) (i : Nat) : List (List Char) :=
  (lines.drop (i + 1)).takeWhile (IsPlain ·)

def OpensAt (lines : List (List Char)) (i : Nat) : Prop := ∃ line ∈ lines[i]?, IsHeader line

instance (lines : List (List Char)) (i : Nat) : Decidable (OpensAt lines i) :=
  inferInstanceAs (Decidable (∃ line ∈ lines[i]?, IsHeader line))

/-- The excerpt of some header extends to a position. -/
def InExcerpt (lines : List (List Char)) (i : Nat) : Prop :=
  ∃ j < i, OpensAt lines j ∧ i ≤ j + (excerptAt lines j).length

instance (lines : List (List Char)) (i : Nat) : Decidable (InExcerpt lines i) :=
  inferInstanceAs (Decidable (∃ j < i, _))

theorem excerptAt_cons_succ (line : List Char) (lines : List (List Char)) (i : Nat) :
    excerptAt (line :: lines) (i + 1) = excerptAt lines i := rfl

theorem opensAt_zero_iff (line : List Char) (lines : List (List Char)) :
    OpensAt (line :: lines) 0 ↔ ∃ h, LineClass.ofLine line = .header h := by
  simp [OpensAt, isHeader_iff, Option.isSome_iff_exists, LineClass.ofLine_eq_header_iff]

theorem not_inExcerpt_zero (lines : List (List Char)) : ¬ InExcerpt lines 0 := by
  rintro ⟨j, before, _⟩
  cases before

theorem inExcerpt_succ_iff (line : List Char) (lines : List (List Char)) (i : Nat) :
    InExcerpt (line :: lines) (i + 1) ↔
      (∃ h, LineClass.ofLine line = .header h) ∧ i < (lines.takeWhile (IsPlain ·)).length ∨
        InExcerpt lines i := by
  have behind : excerptAt (line :: lines) 0 = lines.takeWhile (IsPlain ·) := rfl
  rw [← opensAt_zero_iff line lines, ← behind]
  constructor
  · rintro ⟨j, before, opens, reaches⟩
    cases j with
    | zero => exact .inl ⟨opens, by omega⟩
    | succ j =>
      rw [excerptAt_cons_succ] at reaches
      exact .inr ⟨j, by omega, opens, by omega⟩
  · rintro (⟨opens, reaches⟩ | ⟨j, before, opens, reaches⟩)
    · exact ⟨0, by omega, opens, by omega⟩
    · exact ⟨j + 1, by omega, opens, by rw [excerptAt_cons_succ]; omega⟩

/-! ### Diagnostics -/

theorem Ending.leading_ofLines (lines : List (List Char)) :
    (Ending.ofLines lines).leading = (lines.takeWhile (IsPlain ·)).map String.ofList := by
  induction lines with
  | nil => rfl
  | cons line lines ih =>
    rw [ofLines_cons, cons]
    cases kind : LineClass.ofLine line with
    | plain => simp [(isPlain_iff line).mpr kind, ih]
    | header | summary | blank => simp [isPlain_iff, kind]

theorem diagnostics_ofLines_cons (line : List Char) (lines : List (List Char)) :
    (ofLines (line :: lines)).diagnostics =
      ((Header.read? line).map fun h => h.diagnostic (Ending.ofLines lines).leading).toList ++
        (ofLines lines).diagnostics := by
  rw [diagnostics_ofLines_eq, diagnostics_ofLines_eq, Ending.ofLines_cons, Ending.cons]
  cases kind : LineClass.ofLine line with
  | header h =>
    rw [(LineClass.ofLine_eq_header_iff line h).mp kind]
    rfl
  | summary | blank | plain =>
    have none : Header.read? line = none := by
      rw [Option.eq_none_iff_forall_ne_some]
      intro h read
      rw [← LineClass.ofLine_eq_header_iff, kind] at read
      cases read
    rw [none]
    rfl

def diagnosticAt (lines : List (List Char)) : List Char × Nat → Option Diagnostic
  | (line, i) =>
    (Header.read? line).map fun h => h.diagnostic ((excerptAt lines i).map String.ofList)

theorem diagnostics_ofLines (lines : List (List Char)) :
    (ofLines lines).diagnostics = lines.zipIdx.filterMap (diagnosticAt lines) := by
  induction lines with
  | nil => rfl
  | cons line lines ih =>
    have others : (lines.zipIdx.map fun (l, i) => (l, i + 1)).filterMap (diagnosticAt (line :: lines)) =
        (ofLines lines).diagnostics := by
      rw [ih, List.filterMap_map]
      rfl
    have own : diagnosticAt (line :: lines) (line, 0) =
        (Header.read? line).map fun h => h.diagnostic (Ending.ofLines lines).leading := by
      rw [Ending.leading_ofLines]
      rfl
    rw [diagnostics_ofLines_cons, ← own, List.zipIdx_cons, List.zipIdx_succ, List.filterMap_cons, others]
    cases diagnosticAt (line :: lines) (line, 0) <;> rfl

/-! ### Records -/

def staysInside (inside : Bool) (line : List Char) : Bool :=
  match LineClass.ofLine line with
  | .header _ => true
  | .summary | .blank => false
  | .plain => inside

def Ending.logged (inside : Bool) (e : Ending) : List String :=
  if inside then e.chatter else e.leading ++ e.chatter

/-- A position in an excerpt, which may be that of a header before all lines. -/
def Covered (inside : Bool) (lines : List (List Char)) (i : Nat) : Prop :=
  (inside = true ∧ i < (lines.takeWhile (IsPlain ·)).length) ∨ InExcerpt lines i

instance (inside : Bool) (lines : List (List Char)) (i : Nat) : Decidable (Covered inside lines i) :=
  inferInstanceAs (Decidable (_ ∨ _))

theorem covered_zero_iff (inside : Bool) {line : List Char} (plain : IsPlain line)
    (lines : List (List Char)) : Covered inside (line :: lines) 0 ↔ inside = true := by
  simp [Covered, not_inExcerpt_zero, plain]

theorem covered_succ_iff (inside : Bool) (line : List Char) (lines : List (List Char)) (i : Nat) :
    Covered inside (line :: lines) (i + 1) ↔ Covered (staysInside inside line) lines i := by
  rw [Covered, inExcerpt_succ_iff, ← or_assoc, Covered, staysInside]
  refine or_congr_left ?_
  cases kind : LineClass.ofLine line <;> simp [isPlain_iff, kind]

theorem Ending.logged_ofLines (inside : Bool) (lines : List (List Char)) :
    (Ending.ofLines lines).logged inside =
      (lines.zipIdx.filter fun (line, i) => IsPlain line ∧ ¬ Covered inside lines i).map
        fun (line, _) => String.ofList line := by
  -- The first line decides whether those behind it start inside an excerpt.
  induction lines generalizing inside with
  | nil => cases inside <;> rfl
  | cons line lines ih =>
    have others : ((lines.zipIdx.map fun (l, i) => (l, i + 1)).filter fun (l, i) =>
        IsPlain l ∧ ¬ Covered inside (line :: lines) i).map (fun (l, _) => String.ofList l) =
        (Ending.ofLines lines).logged (staysInside inside line) := by
      rw [ih, List.filter_map, List.map_map]
      simp only [Function.comp_def, covered_succ_iff]
    rw [List.zipIdx_cons, List.zipIdx_succ, List.filter_cons, Ending.ofLines_cons, Ending.cons]
    cases kind : LineClass.ofLine line with
    | header h =>
      have mixed : ¬ IsPlain line := by simp [isPlain_iff, kind]
      simp only [mixed, false_and, decide_false, Bool.false_eq_true, if_false, others]
      simp [staysInside, kind, Ending.logged]
    | summary | blank =>
      have mixed : ¬ IsPlain line := by simp [isPlain_iff, kind]
      simp only [mixed, false_and, decide_false, Bool.false_eq_true, if_false, others]
      simp [staysInside, kind, Ending.logged]
    | plain =>
      have plain : IsPlain line := (isPlain_iff line).mpr kind
      simp only [plain, covered_zero_iff inside plain, true_and]
      cases inside with
      | true =>
        simp only [not_true_eq_false, decide_false, Bool.false_eq_true, if_false, others]
        simp [staysInside, kind, Ending.logged]
      | false =>
        simp only [Bool.false_eq_true, not_false_eq_true, decide_true, if_true, List.map_cons, others]
        simp [staysInside, kind, Ending.logged]

end Transcript

def Transcript.headers (lines : List (List Char)) : List (List Char × Nat) :=
  lines.zipIdx.filter fun (line, _) => IsHeader line

theorem forall₂_filterMap {α β : Type} {r : β → α → Prop} {f : α → Option β} {p : α → Bool}
    (defined : ∀ x, p x = (f x).isSome) (related : ∀ x y, f x = some y → r y x) (xs : List α) :
    List.Forall₂ r (xs.filterMap f) (xs.filter p) := by
  induction xs with
  | nil => exact .nil
  | cons x xs ih =>
    rw [List.filterMap_cons, List.filter_cons, defined]
    cases found : f x with
    | none => exact ih
    | some y => exact .cons (related x y found) ih

/-- No line of a text is lost, told twice or told in the wrong place. Each header is one diagnostic that
says what it says, with all plain lines directly behind it, and the plain lines in no excerpt are logged;
all in the order of the text. -/
theorem every_line_has_its_place (text : String) :
    let lines := lines text.toList
    let t := Transcript.ofString text
    List.Forall₂ (fun d (line, _) => ∃ h : Header, h.Preferred line ∧ h.Opens d)
      t.diagnostics (Transcript.headers lines) ∧
    t.diagnostics.map Diagnostic.excerpt =
      ((Transcript.headers lines).map fun (_, i) =>
        (Transcript.excerptAt lines i).map String.ofList) ∧
    t.records =
      (lines.zipIdx.filter fun (line, i) => IsPlain line ∧ ¬ Transcript.InExcerpt lines i).map
        fun (line, _) => LogRecord.info (String.ofList line) := by
  intro lines t
  have defined (x : List Char × Nat) :
      decide (IsHeader x.1) = (Transcript.diagnosticAt lines x).isSome := by
    rw [Transcript.diagnosticAt, Option.isSome_map, Bool.eq_iff_iff, decide_eq_true_iff,
      isHeader_iff]
  have read : t.diagnostics = lines.zipIdx.filterMap (Transcript.diagnosticAt lines) :=
    Transcript.diagnostics_ofLines lines
  -- Header and excerpt of a diagnostic come from the same position.
  have placed : List.Forall₂ (fun d (line, i) => (∃ h : Header, h.Preferred line ∧ h.Opens d) ∧
      d.excerpt = (Transcript.excerptAt lines i).map String.ofList)
      t.diagnostics (Transcript.headers lines) := by
    rw [read]
    refine forall₂_filterMap defined ?_ lines.zipIdx
    intro (line, i) d opened
    obtain ⟨h, found, rfl⟩ := Option.map_eq_some_iff.mp opened
    have preferred := Header.read?_iff_preferred.mp found
    exact ⟨⟨h, preferred, preferred.spells.opens _⟩, rfl⟩
  refine ⟨placed.imp fun d x both => both.1, ?_, ?_⟩
  · rw [← List.forall₂_eq_eq_eq, List.forall₂_map_left_iff, List.forall₂_map_right_iff]
    exact placed.imp fun d x both => both.2
  · have logged := Transcript.Ending.logged_ofLines false lines
    simp only [Transcript.Covered, Bool.false_eq_true, false_and, false_or] at logged
    have records : t.records =
        ((Transcript.Ending.ofLines lines).logged false).map LogRecord.info := by
      show (Transcript.ofLines lines).records = _
      rw [Transcript.records, Transcript.ofLines_eq]
      rfl
    rw [records, logged, List.map_map]
    rfl

/-- Lines of all classes: two headers, one with an excerpt, blank ones, counts, and some that are none of
these. -/
def mixedText : String :=
  "note\nm.js:3:7: ERROR - [JSC_A] bad\n  x = ;\n  ^\r\n\t\nafter\nWARNING - odd\n1 error(s), 1 warning(s)\nlast"

theorem mixedText_lines_have_places :
    let t := Transcript.ofString mixedText
    t.diagnostics.map Diagnostic.excerpt = [["  x = ;", "  ^"], []] ∧
      t.records = [.info "note", .info "after", .info "last"] ∧
      ∃ d e, t.diagnostics = [d, e] ∧
        d.severity = .error ∧ d.key = some "JSC_A" ∧ d.message = "bad" ∧ d.file = some "m.js" ∧
        d.line = some 3 ∧ d.column = some 7 ∧
        e.severity = .warning ∧ e.key = none ∧ e.message = "odd" ∧ e.file = none := by
  intro t
  obtain ⟨told, excerpts, logged⟩ := every_line_has_its_place mixedText
  refine ⟨excerpts.trans (by decide +kernel), logged.trans (by decide +kernel), ?_⟩
  have headers : Transcript.headers (lines mixedText.toList) =
      [("m.js:3:7: ERROR - [JSC_A] bad".toList, 1), ("WARNING - odd".toList, 6)] := by
    decide +kernel
  rw [headers] at told
  obtain ⟨d, behind, ⟨h, preferred, opens⟩, rest, whole⟩ := List.forall₂_cons_right_iff.mp told
  obtain ⟨e, last, ⟨other, otherPreferred, otherOpens⟩, ended, more⟩ :=
    List.forall₂_cons_right_iff.mp rest
  rw [List.forall₂_nil_right_iff.mp ended] at more
  have read := Header.read?_iff_preferred.mpr preferred
  have otherRead := Header.read?_iff_preferred.mpr otherPreferred
  obtain rfl : ⟨some ⟨"m.js".toList, some ['3'], some ['7']⟩,
      ⟨.error, some "JSC_A".toList, "bad".toList⟩⟩ = h := Option.some.inj (Eq.trans (by decide) read)
  obtain rfl : ⟨none, ⟨.warning, none, "odd".toList⟩⟩ = other :=
    Option.some.inj (Eq.trans (by decide) otherRead)
  exact ⟨d, e, by rw [whole, more], opens.severity, opens.key, opens.message, opens.file,
    (opens.line 3).mpr ⟨_, rfl, List.forall_mem_singleton.mpr rfl, rfl⟩,
    (opens.column 7).mpr ⟨_, rfl, List.forall_mem_singleton.mpr rfl, rfl⟩,
    otherOpens.severity, otherOpens.key, otherOpens.message, otherOpens.file⟩

end DiagnosticSieve
