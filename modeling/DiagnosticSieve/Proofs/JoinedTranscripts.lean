import DiagnosticSieve.Proofs.TranscriptLines

/-!
Transcripts that are put together. Where a transcript goes on behind another one, only the plain lines
that it starts with can be read otherwise than on their own: they belong to the last diagnostic before
them, if nothing ended its excerpt.
-/

namespace DiagnosticSieve

open Text

def IsMark (line : List Char) : Prop :=
  (Header.read? line).isSome = true ∨ trim line = [] ∨ LineClass.IsSummary line

theorem isMark_iff_not_isPlain (line : List Char) : IsMark line ↔ ¬ IsPlain line := by
  constructor
  · intro mark plain
    rcases mark with header | blank | summary
    · exact plain.noHeader ((isHeader_iff line).mpr header)
    · exact plain.visible blank
    · exact plain.noSummary summary
  · intro mixed
    apply Classical.byContradiction
    intro unmarked
    rw [IsMark, not_or, not_or] at unmarked
    exact mixed ⟨mt (isHeader_iff line).mp unmarked.1, unmarked.2.2, unmarked.2.1⟩

instance : DecidablePred IsMark := fun line => decidable_of_iff _ (isMark_iff_not_isPlain line).symm

namespace Transcript

def lastMark? (lines : List (List Char)) : Option (List Char) := lines.reverse.find? (IsMark ·)

/-- The last mark is a header, so that plain lines behind all lines would belong to its diagnostic. -/
def EndsInside (lines : List (List Char)) : Prop :=
  ((lastMark? lines).bind Header.read?).isSome = true

instance (lines : List (List Char)) : Decidable (EndsInside lines) :=
  inferInstanceAs (Decidable (_ = true))

/-- No line of the second text goes to a diagnostic of the first one: the second text is empty or its
first line is a mark, or the last mark of the first text is no header. -/
def Separate (front back : String) : Prop :=
  back = "" ∨ (∃ line ∈ (lines back.toList).head?, IsMark line) ∨
    ¬ EndsInside (lines front.toList)

instance (front back : String) : Decidable (Separate front back) :=
  inferInstanceAs (Decidable (_ ∨ _ ∨ _))

/-! ### Marks -/

theorem lastMark?_eq_some_iff (lines : List (List Char)) (mark : List Char) :
    lastMark? lines = some mark ↔
      IsMark mark ∧ ∃ before behind, lines = before ++ mark :: behind ∧ ∀ x ∈ behind, IsPlain x := by
  rw [lastMark?, List.find?_eq_some_iff_append]
  constructor
  · intro ⟨marks, behind, before, parts, plain⟩
    refine ⟨of_decide_eq_true marks, before.reverse, behind.reverse, ?_, ?_⟩
    · rw [← List.reverse_reverse lines, parts]
      simp
    · intro x member
      have none := plain x (List.mem_reverse.mp member)
      simpa [isMark_iff_not_isPlain] using none
  · intro ⟨marks, before, behind, parts, plain⟩
    refine ⟨decide_eq_true marks, behind.reverse, before.reverse, ?_, ?_⟩
    · rw [parts]
      simp
    · intro x member
      simpa [isMark_iff_not_isPlain] using plain x (List.mem_reverse.mp member)

theorem lastMark?_eq_none_iff (lines : List (List Char)) :
    lastMark? lines = none ↔ ∀ x ∈ lines, IsPlain x := by
  simp [lastMark?, isMark_iff_not_isPlain]

/-! ### Lines before a transcript -/

namespace Ending

theorem foldr_cons_of_plain (front : List (List Char)) (plain : ∀ x ∈ front, IsPlain x) (e : Ending) :
    front.foldr cons e = { e with leading := front.map String.ofList ++ e.leading } := by
  have spelled : (front.map String.ofList).map String.toList = front := by simp
  calc
    front.foldr cons e = ((front.map String.ofList).map String.toList).foldr cons e := by rw [spelled]
    _ = { e with leading := front.map String.ofList ++ e.leading } := by
      apply foldr_cons_plain
      intro x member
      rcases List.mem_map.mp member with ⟨line, inside, rfl⟩
      rw [String.toList_ofList, ← isPlain_iff]
      exact plain line inside

theorem foldr_cons_of_closed (front : List (List Char)) {e : Ending} (closed : e.leading = []) :
    front.foldr cons e =
      ⟨(ofLines front).leading, (ofLines front).diagnostics ++ e.diagnostics,
        (ofLines front).chatter ++ e.chatter⟩ := by
  induction front with
  | nil =>
    obtain ⟨leading, diagnostics, chatter⟩ := e
    cases closed
    rfl
  | cons line front ih =>
    rw [List.foldr_cons, ih, ofLines_cons, cons, cons]
    cases LineClass.ofLine line <;> simp

theorem leading_of_starts {line : List Char} (mark : IsMark line) (rest : List (List Char)) :
    (ofLines (line :: rest)).leading = [] := by
  have mixed : ¬ IsPlain line := (isMark_iff_not_isPlain line).mp mark
  rw [leading_ofLines]
  simp [mixed]

theorem leading_of_separate {front back : String} (separate : Separate front back)
    (inside : EndsInside (lines front.toList)) : (ofLines (lines back.toList)).leading = [] := by
  rcases separate with rfl | ⟨line, starts, mark⟩ | outside
  · rfl
  · obtain ⟨rest, split⟩ := List.head?_eq_some_iff.mp starts
    rw [split]
    exact leading_of_starts mark rest
  · exact absurd inside outside

theorem leading_of_not_separate {front back : String} (mixed : ¬ Separate front back) :
    (ofLines (lines back.toList)).leading ≠ [] := by
  rw [Separate, not_or, not_or] at mixed
  cases starts : lines back.toList with
  | nil =>
    have none : back = "" := by simpa using (lines_eq_nil_iff _).mp starts
    exact absurd none mixed.1
  | cons line rest =>
    have plain : IsPlain line := by
      apply Classical.byContradiction
      intro other
      exact mixed.2.1 ⟨line, by rw [starts]; rfl, (isMark_iff_not_isPlain line).mpr other⟩
    rw [leading_ofLines]
    simp [plain]

theorem ofLines_append (front back : List (List Char)) :
    ofLines (front ++ back) = front.foldr cons (ofLines back) := List.foldr_append

theorem foldr_cons_mark (before : List (List Char)) (mark : List Char) {behind : List (List Char)}
    (plain : ∀ x ∈ behind, IsPlain x) (e : Ending) :
    (before ++ mark :: behind).foldr cons e =
      before.foldr cons (cons mark { e with leading := behind.map String.ofList ++ e.leading }) := by
  rw [List.foldr_append, List.foldr_cons, foldr_cons_of_plain behind plain]

/-- Behind an open excerpt, the plain lines that an ending starts with go to the last diagnostic. -/
theorem ofLines_append_of_endsInside {front : List (List Char)} (inside : EndsInside front)
    (back : List (List Char)) :
    ∃ earlier last, (ofLines front).diagnostics = earlier ++ [last] ∧
      ofLines (front ++ back) =
        ⟨(ofLines front).leading,
          earlier ++ { last with excerpt := last.excerpt ++ (ofLines back).leading } ::
            (ofLines back).diagnostics,
          (ofLines front).chatter ++ (ofLines back).chatter⟩ := by
  obtain ⟨h, opened⟩ := Option.isSome_iff_exists.mp inside
  obtain ⟨mark, found, read⟩ := Option.bind_eq_some_iff.mp opened
  obtain ⟨_, before, behind, rfl, plain⟩ := (lastMark?_eq_some_iff front mark).mp found
  have opens := (LineClass.ofLine_eq_header_iff mark h).mpr read
  have reading (e : Ending) : (before ++ mark :: behind).foldr cons e =
      ⟨(ofLines before).leading,
        (ofLines before).diagnostics ++
          h.diagnostic (behind.map String.ofList ++ e.leading) :: e.diagnostics,
        (ofLines before).chatter ++ e.chatter⟩ := by
    rw [foldr_cons_mark before mark plain e, cons, opens]
    exact foldr_cons_of_closed before rfl
  have own : ofLines (before ++ mark :: behind) =
      ⟨(ofLines before).leading,
        (ofLines before).diagnostics ++ [h.diagnostic (behind.map String.ofList)],
        (ofLines before).chatter⟩ := by
    rw [ofLines, reading {}]
    simp
  refine ⟨(ofLines before).diagnostics, h.diagnostic (behind.map String.ofList), by rw [own], ?_⟩
  rw [ofLines_append, reading, own]
  rfl

theorem ofLines_append_of_not_endsInside {front : List (List Char)} (outside : ¬ EndsInside front)
    (back : List (List Char)) :
    (ofLines (front ++ back)).diagnostics = (ofLines front).diagnostics ++ (ofLines back).diagnostics ∧
      (ofLines (front ++ back)).logged false =
        (ofLines front).logged false ++ (ofLines back).logged false := by
  rw [ofLines_append]
  cases found : lastMark? front with
  | none =>
    have plain := (lastMark?_eq_none_iff front).mp found
    have own : ofLines front = ⟨front.map String.ofList ++ [], [], []⟩ := foldr_cons_of_plain front plain {}
    rw [foldr_cons_of_plain front plain, own]
    simp [logged]
  | some mark =>
    obtain ⟨marks, before, behind, rfl, plain⟩ := (lastMark?_eq_some_iff front mark).mp found
    have reading (e : Ending) : (before ++ mark :: behind).foldr cons e =
        ⟨(ofLines before).leading, (ofLines before).diagnostics ++ e.diagnostics,
          (ofLines before).chatter ++ (behind.map String.ofList ++ e.leading ++ e.chatter)⟩ := by
      rw [foldr_cons_mark before mark plain e, cons]
      cases kind : LineClass.ofLine mark with
      | header h =>
        have read := (LineClass.ofLine_eq_header_iff mark h).mp kind
        exact absurd (by rw [EndsInside, found, Option.bind_some, read]; rfl) outside
      | plain => exact absurd ((isPlain_iff mark).mpr kind) ((isMark_iff_not_isPlain mark).mp marks)
      | summary | blank => exact foldr_cons_of_closed before rfl
    have own : ofLines (before ++ mark :: behind) = _ := reading {}
    rw [reading, own]
    simp [logged]

end Ending

theorem ofString_eq (text : String) :
    ofString text =
      ⟨(Ending.ofLines (Text.lines text.toList)).diagnostics,
        (Ending.ofLines (Text.lines text.toList)).logged false⟩ := ofLines_eq _

theorem ofString_append {front : String} (closed : Closed front.toList) (back : String) :
    ofString (front ++ back) =
      ⟨(Ending.ofLines (lines front.toList ++ lines back.toList)).diagnostics,
        (Ending.ofLines (lines front.toList ++ lines back.toList)).logged false⟩ := by
  rw [ofString_eq, String.toList_append, lines_append closed]

end Transcript

/-- Two texts of which the first ends its last line are read one after the other, unless the second one
goes on with an excerpt of the first: what it starts with up to its first header, blank or summary line
is then the end of that excerpt and is not logged, and all else is read as in the two texts. -/
theorem joined_texts_read_apart (front back : String) (closed : Text.Closed front.toList) :
    let first := Transcript.ofString front
    let second := Transcript.ofString back
    let whole := Transcript.ofString (front ++ back)
    let shared := ((lines back.toList).takeWhile (¬ IsMark ·)).map String.ofList
    (Transcript.Separate front back →
      whole.diagnostics = first.diagnostics ++ second.diagnostics ∧
        whole.records = first.records ++ second.records) ∧
    (¬ Transcript.Separate front back →
      shared ≠ [] ∧ ∃ earlier last logged,
        first.diagnostics = earlier ++ [last] ∧
        whole.diagnostics =
          earlier ++ { last with excerpt := last.excerpt ++ shared } :: second.diagnostics ∧
        second.records = shared.map LogRecord.info ++ logged ∧
        whole.records = first.records ++ logged) := by
  intro first second whole shared
  have leads : shared = (Transcript.Ending.ofLines (lines back.toList)).leading := by
    rw [Transcript.Ending.leading_ofLines]
    simp [shared, isMark_iff_not_isPlain]
  rw [leads]
  simp only [whole, first, second, Transcript.ofString_append closed, Transcript.ofString_eq,
    Transcript.records]
  -- Only behind an open excerpt does the first text take lines of the second one.
  by_cases inside : Transcript.EndsInside (lines front.toList)
  · constructor
    · intro separate
      have closes := Transcript.Ending.leading_of_separate separate inside
      rw [Transcript.Ending.ofLines_append, Transcript.Ending.foldr_cons_of_closed _ closes]
      simp [Transcript.Ending.logged, closes]
    · intro mixed
      obtain ⟨earlier, last, own, read⟩ :=
        Transcript.Ending.ofLines_append_of_endsInside inside (lines back.toList)
      refine ⟨Transcript.Ending.leading_of_not_separate mixed, earlier, last,
        (Transcript.Ending.ofLines (lines back.toList)).chatter.map LogRecord.info, own, ?_, ?_, ?_⟩
      · rw [read]
      · simp [Transcript.Ending.logged]
      · rw [read]
        simp [Transcript.Ending.logged]
  · constructor
    · intro _
      obtain ⟨diagnostics, others⟩ :=
        Transcript.Ending.ofLines_append_of_not_endsInside inside (lines back.toList)
      rw [diagnostics, others, List.map_append]
      exact ⟨rfl, rfl⟩
    · intro mixed
      exact absurd (.inr (.inr inside)) mixed

/-- A text that breaks off inside an excerpt, and what follows it. -/
def brokenOffText : String := "m.js:1: ERROR - a\r\n  x\n"

def goingOnText : String := "  y\n\nnote"

theorem brokenOffText_goes_on :
    let whole := Transcript.ofString (brokenOffText ++ goingOnText)
    whole.diagnostics = [⟨.error, none, "a", some "m.js", some 1, none, ["  x", "  y"]⟩] ∧
      whole.records = [.info "note"] ∧
      (Transcript.ofString (brokenOffText ++ brokenOffText)).diagnostics =
        (Transcript.ofString brokenOffText).diagnostics ++
          (Transcript.ofString brokenOffText).diagnostics := by
  have closed : Text.Closed brokenOffText.toList := by decide +kernel
  have mixed : ¬ Transcript.Separate brokenOffText goingOnText := by decide +kernel
  have apart : Transcript.Separate brokenOffText brokenOffText := by decide +kernel
  obtain ⟨_, earlier, last, logged, own, read, second, records⟩ :=
    (joined_texts_read_apart brokenOffText goingOnText closed).2 mixed
  refine ⟨?_, ?_, ((joined_texts_read_apart brokenOffText brokenOffText closed).1 apart).1⟩
  · have only : [] ++ [⟨.error, none, "a", some "m.js", some 1, none, ["  x"]⟩] = earlier ++ [last] :=
      Eq.trans (by decide +kernel) own
    obtain ⟨rfl, same⟩ := List.append_inj' only rfl
    cases same
    exact read.trans (by decide +kernel)
  · have rest : [LogRecord.info "  y"] ++ [LogRecord.info "note"] = [LogRecord.info "  y"] ++ logged :=
      Eq.trans (by decide +kernel) second
    rw [records, ← List.append_cancel_left rest]
    decide +kernel

end DiagnosticSieve
