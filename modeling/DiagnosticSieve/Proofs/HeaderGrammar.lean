import DiagnosticSieve.Transcript.Header

/-!
The grammar of headers. A header is spelled as an optional location, the word for its severity, a
dash between spaces and a rest that may start with a key in brackets. What the reader finds in a line
is a spelling of it, with a location if there is any with one.
-/

namespace DiagnosticSieve

namespace Text

theorem takeWhile_append_cons {p : Char → Bool} {run : List Char} {stop : Char} (rest : List Char)
    (inside : ∀ c ∈ run, p c = true) (outside : p stop = false) :
    (run ++ stop :: rest).takeWhile p = run := by
  rw [List.takeWhile_append_of_pos inside, List.takeWhile_cons_of_neg (by simp [outside]),
    List.append_nil]

theorem dropWhile_append_cons {p : Char → Bool} {run : List Char} {stop : Char} (rest : List Char)
    (inside : ∀ c ∈ run, p c = true) (outside : p stop = false) :
    (run ++ stop :: rest).dropWhile p = stop :: rest := by
  rw [List.dropWhile_append_of_pos inside, List.dropWhile_cons_of_neg (by simp [outside])]

theorem ne_of_absent {text : List Char} {stop : Char} (absent : stop ∉ text) :
    ∀ c ∈ text, decide (c ≠ stop) = true := fun c member => by
  have other : c ≠ stop := by
    rintro rfl
    exact absent member
  simpa using other

theorem of_mem_takeWhile {p : Char → Bool} {text : List Char} {c : Char}
    (member : c ∈ text.takeWhile p) : p c = true :=
  List.all_eq_true.mp List.all_takeWhile c member

/-- A run of decimal digits of any script that is not empty. -/
structure IsNumber (digits : List Char) : Prop where
  nonempty : digits ≠ []
  digit : ∀ c ∈ digits, isDecimalDigit c = true

theorem isNumber_takeWhile {text : List Char} (some : text.takeWhile isDecimalDigit ≠ []) :
    IsNumber (text.takeWhile isDecimalDigit) := ⟨some, fun _ => of_mem_takeWhile⟩

variable {digits : List Char}

theorem IsNumber.span (number : IsNumber digits) (stop : Char) (rest : List Char)
    (outside : isDecimalDigit stop = false) :
    (digits ++ stop :: rest).takeWhile isDecimalDigit = digits ∧
      (digits ++ stop :: rest).dropWhile isDecimalDigit = stop :: rest :=
  ⟨takeWhile_append_cons rest number.digit outside, dropWhile_append_cons rest number.digit outside⟩

theorem IsNumber.append_ne_space (number : IsNumber digits) (text rest : List Char) :
    digits ++ text ≠ ' ' :: rest := by
  obtain ⟨c, more, rfl⟩ := List.exists_cons_of_ne_nil number.nonempty
  intro spaced
  have digit := number.digit c List.mem_cons_self
  rw [(List.cons.inj spaced).1] at digit
  exact absurd digit (by decide)

theorem word32?_eq_some_iff (number : IsNumber digits) (n : UInt32) :
    word32? digits = some n ↔
      (∀ c ∈ digits, c.isDigit = true) ∧ Nat.ofDigitChars 10 digits 0 = n.toNat := by
  rw [word32?, decimalValue_eq]
  simp only [ne_eq, number.nonempty, not_false_eq_true, decide_true, Bool.true_and, Bool.and_eq_true,
    List.all_eq_true, decide_eq_true_eq]
  constructor
  · intro found
    split at found
    · next fits =>
      cases found
      exact ⟨fits.1, (UInt32.toNat_ofNat_of_lt fits.2).symm⟩
    · cases found
  · intro ⟨ascii, value⟩
    rw [value, if_pos ⟨ascii, n.toNat_lt_size⟩, UInt32.ofNat_toNat]

end Text

open Text

/-! ### Locations -/

namespace Location

structure IsFile (file : List Char) : Prop where
  shows : ∃ c rest, file = c :: rest ∧ isBlank c = false
  noColon : ':' ∉ file

/-- The ways to go on behind the file and its colon. -/
inductive Positions : Option (List Char) → Option (List Char) → List Char → Prop
  | absent : Positions none none [' ']
  | line {line : List Char} (number : IsNumber line) : Positions (some line) none (line ++ [':', ' '])
  | column {line column : List Char} (number : IsNumber line) (second : IsNumber column) :
      Positions (some line) (some column) (line ++ ':' :: (column ++ [':', ' ']))

inductive Spells : Option Location → List Char → Prop
  | absent : Spells none []
  | present {l : Location} {positions : List Char} (file : IsFile l.file)
      (behind : Positions l.line l.column positions) : Spells (some l) (l.file ++ ':' :: positions)

variable {line column : Option (List Char)} {spelled text rest : List Char}

theorem positions?_spelled (positions : Positions line column spelled) (rest : List Char) :
    positions? (spelled ++ rest) = some (line, column, rest) := by
  cases positions with
  | absent => rfl
  | line number =>
    obtain ⟨run, left⟩ := number.span ':' (' ' :: rest) (by decide)
    rw [List.append_assoc, positions?]
    · simp [run, left, number.nonempty]
    · exact number.append_ne_space _
  | @column line column number second =>
    obtain ⟨run, left⟩ := number.span ':' (column ++ ':' :: ' ' :: rest) (by decide)
    obtain ⟨secondRun, secondLeft⟩ := second.span ':' (' ' :: rest) (by decide)
    simp only [List.append_assoc, List.cons_append, List.nil_append]
    rw [positions?]
    · simp only [run, left, number.nonempty, if_false]
      split
      · next more spaced => exact absurd (List.cons.inj spaced).2 (second.append_ne_space _ _)
      · next more _ same =>
        rw [← (List.cons.inj same).2]
        simp [secondRun, secondLeft, second.nonempty]
      · next other => exact absurd rfl (other _)
    · exact number.append_ne_space _

theorem positions?_sound (found : positions? text = some (line, column, rest)) :
    ∃ spelled, Positions line column spelled ∧ text = spelled ++ rest := by
  -- Digits and what is left behind them are the whole text.
  have joined {digits more : List Char} (left : digits.dropWhile isDecimalDigit = more) :
      digits = digits.takeWhile isDecimalDigit ++ more := by
    rw [← left, List.takeWhile_append_dropWhile]
  unfold positions? at found
  split at found
  · cases found
    exact ⟨_, .absent, rfl⟩
  · dsimp only at found
    split at found
    · cases found
    · next isLine =>
      split at found
      · next left =>
        cases found
        exact ⟨_, .line (isNumber_takeWhile isLine), by simpa using joined left⟩
      · next more _ left =>
        split at found
        · cases found
        · next isColumn =>
          split at found
          · next last =>
            cases found
            refine ⟨_, .column (isNumber_takeWhile isLine) (isNumber_takeWhile isColumn), ?_⟩
            have whole := joined left
            rw [joined last] at whole
            simpa using whole
          · cases found
      · cases found

theorem read?_of_isFile {file : List Char} (whole : IsFile file) (rest : List Char) :
    read? (file ++ ':' :: rest) =
      (positions? rest).map fun (line, column, body) => (⟨file, line, column⟩, body) := by
  obtain ⟨⟨c, more, spelled, shows⟩, noColon⟩ := whole
  have inside := ne_of_absent noColon
  rw [read?, takeWhile_append_cons rest inside (by decide),
    dropWhile_append_cons rest inside (by decide)]
  simp [spelled, shows]

theorem exists_isFile_of_read? {l : Location} (found : read? text = some (l, rest)) :
    IsFile l.file ∧ ∃ behind, text = l.file ++ ':' :: behind ∧
      positions? behind = some (l.line, l.column, rest) := by
  unfold read? at found
  split at found
  · next c file behind taken left =>
    split at found
    · cases found
    · next shows =>
      obtain ⟨positions, placed, same⟩ := Option.map_eq_some_iff.mp found
      cases same
      refine ⟨⟨⟨c, file, rfl, by simpa using shows⟩, fun colon => ?_⟩, behind, ?_, placed⟩
      · rw [← taken] at colon
        simpa using of_mem_takeWhile colon
      · rw [← taken, ← left, List.takeWhile_append_dropWhile]
  · cases found

theorem read?_eq_some_iff (l : Location) :
    read? text = some (l, rest) ↔ ∃ spelled, Spells (some l) spelled ∧ text = spelled ++ rest := by
  constructor
  · intro found
    obtain ⟨file, behind, rfl, placed⟩ := exists_isFile_of_read? found
    obtain ⟨spelled, positions, rfl⟩ := positions?_sound placed
    exact ⟨_, .present file positions, by rw [List.append_assoc, List.cons_append]⟩
  · rintro ⟨_, spells, rfl⟩
    cases spells with
    | present file positions =>
      rw [List.append_assoc, List.cons_append, read?_of_isFile file, positions?_spelled positions]
      rfl

theorem Spells.file_eq {l : Location} (spells : Spells (some l) spelled) (rest : List Char) :
    l.file = (spelled ++ rest).takeWhile (· ≠ ':') := by
  cases spells with
  | present file positions =>
    rw [List.append_assoc, List.cons_append,
      takeWhile_append_cons _ (ne_of_absent file.noColon) (by decide)]

end Location

/-! ### What follows a location -/

namespace HeaderBody

structure IsKey (key : List Char) : Prop where
  nonempty : key ≠ []
  keyChar : ∀ c ∈ key, isKeyChar c = true

/-- What follows the severity tells a key and a message: the message is behind the key in its brackets
and a space, or everything if there is no key. -/
inductive Tells (rest : List Char) : Option (List Char) → List Char → Prop
  | keyed {key message : List Char} (whole : IsKey key)
      (spelled : rest = '[' :: (key ++ ']' :: ' ' :: message)) : Tells rest (some key) message
  | bare (noKey : ∀ key message, IsKey key → rest ≠ '[' :: (key ++ ']' :: ' ' :: message)) :
      Tells rest none rest

theorem splitKey_keyed {key : List Char} (whole : IsKey key) (message : List Char) :
    splitKey ('[' :: (key ++ ']' :: ' ' :: message)) = (some key, message) := by
  have outside : isKeyChar ']' = false := by decide
  obtain ⟨c, more, rfl⟩ := List.exists_cons_of_ne_nil whole.nonempty
  rw [splitKey, takeWhile_append_cons _ whole.keyChar outside,
    dropWhile_append_cons _ whole.keyChar outside]
  rfl

theorem splitKey_cases (text : List Char) :
    (∃ key message, IsKey key ∧ text = '[' :: (key ++ ']' :: ' ' :: message)) ∨
      splitKey text = (none, text) := by
  unfold splitKey
  split
  · next rest =>
    split
    · next c key message taken left =>
      refine .inl ⟨c :: key, message, ⟨List.cons_ne_nil _ _, fun d member => ?_⟩, ?_⟩
      · rw [← taken] at member
        exact of_mem_takeWhile member
      · rw [← taken, ← left, List.takeWhile_append_dropWhile]
    · exact .inr rfl
  · exact .inr rfl

theorem splitKey_eq_iff (text : List Char) (key : Option (List Char)) (message : List Char) :
    splitKey text = (key, message) ↔ Tells text key message := by
  constructor
  · intro split
    rcases splitKey_cases text with ⟨found, behind, whole, rfl⟩ | none
    · rw [splitKey_keyed whole] at split
      cases split
      exact .keyed whole rfl
    · rw [none] at split
      cases split
      refine .bare fun found behind whole same => ?_
      rw [same, splitKey_keyed whole] at none
      cases none
  · intro tells
    cases tells with
    | keyed whole spelled => rw [spelled, splitKey_keyed whole]
    | bare noKey =>
      rcases splitKey_cases text with ⟨found, behind, whole, same⟩ | none
      · exact absurd same (noKey found behind whole)
      · exact none

def lead (severity : Severity) : List Char := severity.word.toList ++ " - ".toList

theorem read?_lead (severity : Severity) (rest : List Char) :
    read? (lead severity ++ rest) = some (ofRest severity rest) := by
  cases severity with
  | error =>
    have after : after? "ERROR - ".toList (lead .error ++ rest) = some rest :=
      (after?_eq_some_iff ..).mpr rfl
    rw [read?, after]
    rfl
  | warning =>
    have after : after? "WARNING - ".toList (lead .warning ++ rest) = some rest :=
      (after?_eq_some_iff ..).mpr rfl
    have other : after? "ERROR - ".toList (lead .warning ++ rest) = none := rfl
    rw [read?, after, other]
    rfl

theorem read?_eq_some_iff (text : List Char) (b : HeaderBody) :
    read? text = some b ↔
      ∃ rest, text = lead b.severity ++ rest ∧ Tells rest b.key b.message := by
  constructor
  · intro found
    have split (severity : Severity) (rest : List Char) (same : ofRest severity rest = b) :
        severity = b.severity ∧ Tells rest b.key b.message := by
      subst same
      exact ⟨rfl, (splitKey_eq_iff ..).mp rfl⟩
    rw [read?, Option.or_eq_some_iff, Option.map_eq_some_iff, Option.map_eq_some_iff] at found
    rcases found with ⟨rest, after, same⟩ | ⟨_, rest, after, same⟩
    · obtain ⟨severity, tells⟩ := split .error rest same
      exact ⟨rest, severity ▸ (after?_eq_some_iff ..).mp after, tells⟩
    · obtain ⟨severity, tells⟩ := split .warning rest same
      exact ⟨rest, severity ▸ (after?_eq_some_iff ..).mp after, tells⟩
  · rintro ⟨rest, rfl, tells⟩
    obtain ⟨severity, key, message⟩ := b
    rw [read?_lead, ofRest, (splitKey_eq_iff ..).mpr tells]

end HeaderBody

namespace Header

inductive Spells (h : Header) : List Char → Prop
  | parts {location rest : List Char} (placed : Location.Spells h.location location)
      (tells : HeaderBody.Tells rest h.body.key h.body.message) :
      Spells h (location ++ (HeaderBody.lead h.body.severity ++ rest))

/-- A line is read with a location if it is spelled with any. -/
structure Preferred (h : Header) (line : List Char) : Prop where
  spells : h.Spells line
  located : h.location = none → ∀ other : Header, other.Spells line → other.location = none

theorem readBare?_eq_some_iff (line : List Char) (h : Header) :
    readBare? line = some h ↔ h.location = none ∧ HeaderBody.read? line = some h.body := by
  rw [readBare?, Option.map_eq_some_iff]
  constructor
  · rintro ⟨body, told, rfl⟩
    exact ⟨rfl, told⟩
  · rintro ⟨bare, told⟩
    exact ⟨h.body, told, by rw [← bare]⟩

theorem read?_eq_some_iff (line : List Char) (h : Header) :
    read? line = some h ↔
      readLocated? line = some h ∨ readLocated? line = none ∧ readBare? line = some h := by
  rw [read?, Option.or_eq_some_iff]

theorem readLocated?_eq_some_iff (line : List Char) (h : Header) :
    readLocated? line = some h ↔
      ∃ l rest, Location.read? line = some (l, rest) ∧ h.location = some l ∧
        HeaderBody.read? rest = some h.body := by
  rw [readLocated?]
  cases Location.read? line with
  | none => simp
  | some found =>
    obtain ⟨l, rest⟩ := found
    cases body : HeaderBody.read? rest with
    | none => simp [body]
    | some b =>
      obtain ⟨location, own⟩ := h
      simp only [Option.bind_eq_bind, Option.bind_some, body, Option.pure_def, Option.some.injEq,
        mk.injEq, Prod.mk.injEq]
      constructor
      · rintro ⟨rfl, rfl⟩
        exact ⟨l, rest, ⟨rfl, rfl⟩, rfl, body⟩
      · rintro ⟨_, _, ⟨rfl, rfl⟩, same, told⟩
        rw [body] at told
        exact ⟨same.symm, Option.some.inj told⟩

variable {h other : Header} {line : List Char}

theorem readLocated?_iff_spells :
    readLocated? line = some h ↔ h.location.isSome = true ∧ h.Spells line := by
  rw [readLocated?_eq_some_iff]
  constructor
  · rintro ⟨l, rest, placed, at_l, told⟩
    obtain ⟨location, spells, rfl⟩ := (Location.read?_eq_some_iff l).mp placed
    obtain ⟨more, rfl, tells⟩ := (HeaderBody.read?_eq_some_iff ..).mp told
    exact ⟨by rw [at_l]; rfl, .parts (at_l ▸ spells) tells⟩
  · rintro ⟨some, ⟨placed, tells⟩⟩
    obtain ⟨l, at_l⟩ := Option.isSome_iff_exists.mp some
    rw [at_l] at placed
    exact ⟨l, _, (Location.read?_eq_some_iff l).mpr ⟨_, placed, rfl⟩, at_l,
      (HeaderBody.read?_eq_some_iff ..).mpr ⟨_, rfl, tells⟩⟩

theorem spells_of_bare {rest : List Char} (bare : h.location = none)
    (tells : HeaderBody.Tells rest h.body.key h.body.message) :
    h.Spells (HeaderBody.lead h.body.severity ++ rest) := by
  have placed : Location.Spells h.location [] := bare ▸ .absent
  exact .parts placed tells

theorem readBare?_iff_spells :
    readBare? line = some h ↔ h.location = none ∧ h.Spells line := by
  rw [readBare?_eq_some_iff, HeaderBody.read?_eq_some_iff]
  constructor
  · rintro ⟨bare, rest, rfl, tells⟩
    exact ⟨bare, spells_of_bare bare tells⟩
  · rintro ⟨bare, ⟨placed, tells⟩⟩
    rw [bare] at placed
    cases placed
    exact ⟨bare, _, rfl, tells⟩

/-- What is read from a line is the preferred way to spell it. -/
theorem read?_iff_preferred : read? line = some h ↔ h.Preferred line := by
  rw [read?_eq_some_iff, readLocated?_iff_spells, readBare?_iff_spells]
  constructor
  · rintro (⟨located, spells⟩ | ⟨unplaced, bare, spells⟩)
    · refine ⟨spells, fun bare => ?_⟩
      rw [bare] at located
      cases located
    · refine ⟨spells, fun _ other otherSpells => ?_⟩
      rw [← Option.not_isSome_iff_eq_none]
      intro located
      rw [readLocated?_iff_spells.mpr ⟨located, otherSpells⟩] at unplaced
      cases unplaced
  · intro ⟨spells, preferred⟩
    cases bare : h.location with
    | some l => exact .inl ⟨rfl, spells⟩
    | none =>
      refine .inr ⟨?_, rfl, spells⟩
      cases found : readLocated? line with
      | none => rfl
      | some other =>
        obtain ⟨located, otherSpells⟩ := readLocated?_iff_spells.mp found
        rw [preferred bare other otherSpells] at located
        cases located

theorem exists_read?_iff : (∃ h, read? line = some h) ↔ ∃ h : Header, h.Spells line := by
  constructor
  · rintro ⟨h, found⟩
    exact ⟨h, (read?_iff_preferred.mp found).spells⟩
  · rintro ⟨h, spells⟩
    cases found : readLocated? line with
    | some other => exact ⟨other, (read?_eq_some_iff ..).mpr (.inl found)⟩
    | none =>
      refine ⟨h, (read?_eq_some_iff ..).mpr (.inr ⟨found, readBare?_iff_spells.mpr ⟨?_, spells⟩⟩)⟩
      rw [← Option.not_isSome_iff_eq_none]
      intro located
      rw [readLocated?_iff_spells.mpr ⟨located, spells⟩] at found
      cases found

theorem Spells.eq_of_located (spells : h.Spells line) (otherSpells : other.Spells line)
    (located : h.location.isSome = true) (otherLocated : other.location.isSome = true) :
    h = other := by
  have found := readLocated?_iff_spells.mpr ⟨located, spells⟩
  rw [readLocated?_iff_spells.mpr ⟨otherLocated, otherSpells⟩] at found
  exact (Option.some.inj found).symm

end Header

end DiagnosticSieve
