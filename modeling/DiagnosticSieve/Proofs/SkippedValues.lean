import DiagnosticSieve.Json.Skip
import DiagnosticSieve.Proofs.ValueSpelling

namespace DiagnosticSieve.Json

/-- What may follow a value: a blank, a comma, a closing bracket, or nothing. -/
def Ends (rest : List Char) : Prop :=
  ∀ c more, rest = c :: more → isBlank c = true ∨ c ∈ [',', ']', '\x7d']

theorem ends_cons {c : Char} (rest : List Char) (stops : isBlank c = true ∨ c ∈ [',', ']', '\x7d']) :
    Ends (c :: rest) := by
  rintro d more ⟨⟩
  exact stops

theorem ends_append {after rest : List Char} (blank : Blanks after) (ends : Ends rest) :
    Ends (after ++ rest) := by
  cases after with
  | nil => exact ends
  | cons c after => exact ends_cons _ (.inl (blank c List.mem_cons_self))

theorem Ends.not_number {c : Char} {rest : List Char} (ends : Ends (c :: rest)) :
    c.isDigit = false ∧ c ≠ '.' ∧ c ≠ 'e' ∧ c ≠ 'E' := by
  have stops := ends c rest rfl
  simp only [isBlank, Bool.or_eq_true, decide_eq_true_eq, List.mem_cons, List.not_mem_nil,
    or_false] at stops
  rcases stops with (((rfl | rfl) | rfl) | rfl) | rfl | rfl | rfl <;> decide

def NoDigit (rest : List Char) : Prop := ∀ c more, rest = c :: more → c.isDigit = false

theorem Ends.noDigit {rest : List Char} (ends : Ends rest) : NoDigit rest := by
  rintro c more rfl
  exact ends.not_number.1

namespace Numeral

variable (cut : Cause) {digits rest : List Char}

theorem readDigits_append (run : IsDigits digits) (stop : NoDigit rest) :
    readDigits cut (digits ++ rest) = .ok (digits, rest) := by
  have none : rest.takeWhile Char.isDigit = [] ∧ rest.dropWhile Char.isDigit = rest := by
    cases rest with
    | nil => exact ⟨rfl, rfl⟩
    | cons c rest => simp [stop c rest rfl]
  have span : spanDigits (digits ++ rest) = (digits, rest) := by
    rw [spanDigits, List.takeWhile_append_of_pos run.digit, List.dropWhile_append_of_pos run.digit,
      none.1, none.2, List.append_nil]
  rw [readDigits, span, if_neg run.nonempty]

theorem readWhole_append (whole : IsWhole digits) (stop : NoDigit rest) :
    readWhole cut (digits ++ rest) = .ok (digits, rest) := by
  rw [readWhole, readDigits_append cut whole.toIsDigits stop]
  split
  · next d more _ same =>
    cases same
    cases whole.alone _ rfl
  · rfl

theorem readFraction_append {fraction : List Char} (spells : SpellsFraction digits fraction)
    (stop : NoDigit rest) (noPoint : ∀ more, rest ≠ '.' :: more) :
    readFraction cut (fraction ++ rest) = .ok (digits, rest) := by
  cases spells with
  | absent =>
    rw [List.nil_append, readFraction]
    exact noPoint
  | present run =>
    rw [List.cons_append, readFraction, readDigits_append cut run stop]

theorem spanSign_append {negative : Bool} {sign : List Char} (signed : SpellsSign negative sign)
    (run : IsDigits digits) (rest : List Char) :
    spanSign (sign ++ (digits ++ rest)) = (negative, digits ++ rest) := by
  cases signed with
  | plus => rfl
  | minus => rfl
  | unsigned =>
    obtain ⟨d, more, rfl⟩ := List.exists_cons_of_ne_nil run.nonempty
    have digit := run.digit d List.mem_cons_self
    rw [List.nil_append, List.cons_append, spanSign]
    · rintro text ⟨⟩
      cases digit
    · rintro text ⟨⟩
      cases digit

theorem readExponent_append {power : Option (Bool × List Char)} {exponent : List Char}
    (spells : SpellsExponent power exponent) (ends : Ends rest) :
    readExponent cut (exponent ++ rest) = .ok (power, rest) := by
  cases spells with
  | absent =>
    rw [List.nil_append, readExponent]
    · rintro more rfl
      exact ends.not_number.2.2.1 rfl
    · rintro more rfl
      exact ends.not_number.2.2.2 rfl
  | present marks signed run =>
    have behind := spanSign_append signed run rest
    have digits := readDigits_append cut run ends.noDigit
    rcases marks with rfl | rfl
    · rw [List.cons_append, List.append_assoc, readExponent, behind]
      simp only [digits, Reading.mapValue, Except.map]
    · rw [List.cons_append, List.append_assoc, readExponent, behind]
      simp only [digits, Reading.mapValue, Except.map]

theorem read_spelled {n : Numeral} {text : List Char} (spells : SpellsNumeral n text)
    (ends : Ends rest) : Numeral.read cut (text ++ rest) = .ok (n, rest) := by
  obtain ⟨digits, places, exponent?⟩ := n
  cases spells with
  | @parts fraction exponent whole behindPoint power =>
    have afterPoint : NoDigit (exponent ++ rest) ∧ ∀ more, exponent ++ rest ≠ '.' :: more := by
      cases power with
      | absent =>
        refine ⟨ends.noDigit, ?_⟩
        rintro more rfl
        exact ends.not_number.2.1 rfl
      | present marks _ _ => rcases marks with rfl | rfl <;> simp [NoDigit]
    have afterWhole : NoDigit (fraction ++ (exponent ++ rest)) := by
      cases behindPoint with
      | absent => exact afterPoint.1
      | present run => simp [NoDigit]
    rw [Numeral.read, List.append_assoc, List.append_assoc, readWhole_append cut whole afterWhole]
    simp only [bind, Except.bind, readFraction_append cut behindPoint afterPoint.1 afterPoint.2,
      readExponent_append cut power ends]
    rfl

end Numeral

variable {v : Value} {text rest : List Char}

theorem Bracket.ofOpening?_of_scalar {c : Char} (opens : c ∈ v.openers) (scalar : v.isScalar = true) :
    Bracket.ofOpening? c = none := by
  obtain ⟨noList, noObject⟩ := Value.openers_of_scalar opens scalar
  rw [ofOpening?]
  · exact noList
  · exact noObject

theorem Scalar.skip_digit {d : Char} (digit : d.isDigit = true) (more : List Char) :
    skip (d :: more) = (Numeral.read .invalidNumber (d :: more)).map Prod.snd := by
  rw [skip]
  · rw [List.head?_cons, Option.map_some, Option.getD_some, if_pos digit]
  all_goals
    rintro _ ⟨⟩
    cases digit

theorem Scalar.skip_spelled (spells : Spells v text) (ends : Ends rest)
    (scalar : v.isScalar = true) :
    Scalar.skip (text ++ rest) = .ok rest := by
  have word (letters : List Char) : expectWord letters (letters ++ rest) = .ok rest :=
    (expectWord_eq_ok_iff ..).mpr rfl
  cases spells with
  | null => exact word "ull".toList
  | boolean value =>
    cases value with
    | true => exact word "rue".toList
    | false => exact word "alse".toList
  | @number negative n digits numeral =>
    have read := Numeral.read_spelled .invalidNumber numeral ends
    cases negative with
    | true =>
      rw [if_pos rfl, List.append_assoc, List.singleton_append, skip, read]
      rfl
    | false =>
      obtain ⟨d, more, front, digit⟩ := numeral.starts
      rw [if_neg Bool.false_ne_true, List.nil_append, front, List.cons_append, skip_digit digit,
        ← List.cons_append, ← front, read]
      rfl
  | text quoted =>
    obtain ⟨chars⟩ := quoted
    obtain ⟨letters, _, read⟩ := chars.read false
    have read := read rest
    rw [List.cons_append, List.append_assoc, List.singleton_append, skip, read]
    rfl
  | emptyList | list | emptyObject | object => cases scalar

section Steps

variable {b : Bracket} {outer : List Bracket} {c : Char} {more : List Char}

theorem skipFrom_close (start : skipBlanks text = b.closing :: rest) :
    skipFrom .afterValue (b :: outer) text = skipFrom .afterValue outer rest := by
  rw [skipFrom]
  split
  case h_1 ended => simp [start] at ended
  case h_2 found =>
    rw [start] at found
    cases found
    exact if_pos rfl

theorem skipFrom_comma (start : skipBlanks text = ',' :: more) (key : b.skipKey more = .ok rest) :
    skipFrom .afterValue (b :: outer) text = skipFrom .value (b :: outer) rest := by
  have inside : ',' ≠ b.closing := by cases b <;> decide
  rw [skipFrom]
  split
  case h_1 ended => simp [start] at ended
  case h_2 found =>
    rw [start] at found
    cases found
    rw [if_neg inside, if_pos rfl]
    split
    case h_1 refused => simp [key] at refused
    case h_2 same =>
      rw [key] at same
      cases same
      rfl

theorem skipFrom_scalar (start : skipBlanks text = c :: more)
    (single : Bracket.ofOpening? c = none) (scalar : Scalar.skip (c :: more) = .ok rest) :
    skipFrom .value outer text = skipFrom .afterValue outer rest := by
  rw [skipFrom]
  split
  case h_1 ended => simp [start] at ended
  case h_2 found =>
    rw [start] at found
    cases found
    rw [single]
    dsimp only
    split
    case h_1 refused => simp [scalar] at refused
    case h_2 same =>
      rw [scalar] at same
      cases same
      rfl

theorem skipFrom_empty (start : skipBlanks text = c :: more) (opening : Bracket.ofOpening? c = some b)
    (inside : skipBlanks more = b.closing :: rest) :
    skipFrom .value outer text = skipFrom .afterValue outer rest := by
  rw [skipFrom]
  split
  case h_1 ended => simp [start] at ended
  case h_2 found =>
    rw [start] at found
    cases found
    rw [opening]
    dsimp only
    split
    case h_1 ended => simp [inside] at ended
    case h_2 same =>
      rw [inside] at same
      cases same
      exact if_pos rfl

theorem skipFrom_open {d : Char} {last : List Char} (start : skipBlanks text = c :: more)
    (opening : Bracket.ofOpening? c = some b) (inside : skipBlanks more = d :: last)
    (filled : d ≠ b.closing) (key : b.skipKey (d :: last) = .ok rest) :
    skipFrom .value outer text = skipFrom .value (b :: outer) rest := by
  rw [skipFrom]
  split
  case h_1 ended => simp [start] at ended
  case h_2 found =>
    rw [start] at found
    cases found
    rw [opening]
    dsimp only
    split
    case h_1 ended => simp [inside] at ended
    case h_2 same =>
      rw [inside] at same
      cases same
      rw [if_neg filled]
      split
      case h_1 refused => simp [key] at refused
      case h_2 same =>
        rw [key] at same
        cases same
        rfl

end Steps

/-- A part inside brackets that is skipped as one of them, up to what follows it. -/
structure Skippable (b : Bracket) (part : List Char) : Prop where
  starts : ∃ d last, d ≠ b.closing ∧ isBlank d = false ∧
    ∀ more, skipBlanks (part ++ more) = d :: (last ++ more)
  skips : ∀ text rest : List Char, Ends rest → skipBlanks text = skipBlanks (part ++ rest) →
    ∃ behindKey left, b.skipKey text = .ok behindKey ∧ skipBlanks left = skipBlanks rest ∧
      ∀ outer, skipFrom .value (b :: outer) behindKey = skipFrom .afterValue (b :: outer) left

theorem Bracket.ends_closing (b : Bracket) (rest : List Char) : Ends (b.closing :: rest) :=
  ends_cons rest (.inr (by cases b <;> decide))

theorem Bracket.ends_continued (b : Bracket) (parts : List (List Char)) (rest : List Char) :
    Ends (continued parts ++ b.closing :: rest) := by
  cases parts with
  | nil => exact b.ends_closing rest
  | cons part parts => exact ends_cons _ (.inr (by decide))

theorem Bracket.skipBlanks_closing (b : Bracket) (rest : List Char) :
    skipBlanks (b.closing :: rest) = b.closing :: rest :=
  skipBlanks_cons _ _ (by cases b <;> decide)

theorem skipFrom_continued {b : Bracket} {parts : List (List Char)}
    (skippable : ∀ part ∈ parts, Skippable b part) (outer : List Bracket) (text rest : List Char)
    (start : skipBlanks text = skipBlanks (continued parts ++ b.closing :: rest)) :
    skipFrom .afterValue (b :: outer) text = skipFrom .afterValue outer rest := by
  induction parts generalizing text with
  | nil => exact skipFrom_close (start.trans (b.skipBlanks_closing rest))
  | cons part parts ih =>
    obtain ⟨first, others⟩ := List.forall_mem_cons.mp skippable
    obtain ⟨behindKey, left, key, after, skipped⟩ :=
      first.skips _ _ (b.ends_continued parts rest) rfl
    have comma := start.trans (skipBlanks_continued blanks_nil part parts (b.closing :: rest))
    rw [skipFrom_comma comma key, skipped, ih others left after]

theorem skipFrom_parts (b : Bracket) {c : Char} {part input rest : List Char}
    {parts : List (List Char)} (skippable : ∀ p ∈ part :: parts, Skippable b p)
    (outer : List Bracket)
    (start : skipBlanks input = c :: (separate (part :: parts) ++ b.closing :: rest))
    (opening : Bracket.ofOpening? c = some b) :
    skipFrom .value outer input = skipFrom .afterValue outer rest := by
  obtain ⟨first, others⟩ := List.forall_mem_cons.mp skippable
  obtain ⟨d, last, filled, dark, front⟩ := first.starts
  rw [separate_cons, List.append_assoc] at start
  have inside := front (continued parts ++ b.closing :: rest)
  have again := inside ▸ skipBlanks_cons d (last ++ (continued parts ++ b.closing :: rest)) dark
  obtain ⟨behindKey, left, key, after, skipped⟩ :=
    first.skips _ _ (b.ends_continued parts rest) again
  rw [inside] at key
  rw [skipFrom_open start opening inside filled key, skipped,
    skipFrom_continued others outer left rest after]

theorem skipFrom_none (b : Bracket) {c : Char} {filler input rest : List Char}
    (blank : Blanks filler) (outer : List Bracket)
    (start : skipBlanks input = c :: (filler ++ b.closing :: rest))
    (opening : Bracket.ofOpening? c = some b) :
    skipFrom .value outer input = skipFrom .afterValue outer rest :=
  skipFrom_empty start opening ((skipBlanks_append blank _).trans (b.skipBlanks_closing rest))

def Skips (text : List Char) : Prop :=
  ∀ (outer : List Bracket) (input rest : List Char), Ends rest → skipBlanks input = text ++ rest →
    skipFrom .value outer input = skipFrom .afterValue outer rest

theorem Item.skippable {i : Item} (framed : i.Framed) (spells : Spells i.value i.text)
    (skips : Skips i.text) : Skippable .list i.padded where
  starts := by
    obtain ⟨c, more, front, opens⟩ := spells.starts
    refine ⟨c, more ++ i.after, Value.openers_ne_closing opens .list, (Value.openers_apart opens).1,
      fun rest => ?_⟩
    rw [i.skipBlanks_padded framed spells, front, List.cons_append, List.append_assoc]
  skips text rest ends start := by
    refine ⟨text, i.after ++ rest, rfl, skipBlanks_append framed.after rest, fun outer => ?_⟩
    exact skips _ text _ (ends_append framed.after ends)
      (start.trans (i.skipBlanks_padded framed spells rest))

theorem expectColon_append {after : List Char} (blank : Blanks after) (rest : List Char) :
    expectColon (after ++ ':' :: rest) = .ok rest := by
  rw [expectColon, skipBlanks_append blank, skipBlanks_cons _ _ rfl]
  rfl

theorem Entry.skippable {e : Entry} (framed : e.Framed) (spells : Spells e.item.value e.item.text)
    (skips : Skips e.item.text) : Skippable .object e.padded where
  starts := by
    obtain ⟨inner, _, front⟩ := e.skipBlanks_padded framed
    refine ⟨'"', inner ++ '"' :: (e.after ++ ':' :: e.item.padded), by decide, rfl, fun rest => ?_⟩
    simp [front]
  skips text rest ends start := by
    obtain ⟨inner, chars, front⟩ := e.skipBlanks_padded framed
    obtain ⟨letters, _, read⟩ := chars.read false
    refine ⟨e.item.padded ++ rest, e.item.after ++ rest, ?_,
      skipBlanks_append framed.item.after rest, fun outer => ?_⟩
    · rw [Bracket.skipKey, start, front]
      simp only [read, expectColon_append framed.after]
    · exact skips _ _ _ (ends_append framed.item.after ends)
        (e.item.skipBlanks_padded framed.item spells rest)

theorem Spells.skips_of_scalar (spells : Spells v text)
    (scalar : v.isScalar = true) : Skips text := by
  intro outer input rest ends start
  obtain ⟨c, more, front, opens⟩ := spells.starts
  have skipped := Scalar.skip_spelled spells ends scalar
  rw [front] at start skipped
  exact skipFrom_scalar start (Bracket.ofOpening?_of_scalar opens scalar) skipped

theorem Spells.skips (spells : Spells v text) : Skips text := by
  induction spells with
  | null => exact Spells.null.skips_of_scalar rfl
  | boolean value => exact (Spells.boolean value).skips_of_scalar rfl
  | number numeral => exact (Spells.number numeral).skips_of_scalar rfl
  | text quoted => exact (Spells.text quoted).skips_of_scalar rfl
  | emptyList blank =>
    intro outer input rest _ start
    rw [List.cons_append, List.append_assoc] at start
    exact skipFrom_none .list blank outer start rfl
  | list item items framed each ih =>
    intro outer input rest _ start
    have skippable : ∀ part ∈ (item :: items).map Item.padded, Skippable .list part :=
      List.forall_mem_map.mpr fun i member => i.skippable (framed i member) (each i member) (ih i member)
    rw [List.cons_append, List.append_assoc] at start
    exact skipFrom_parts .list skippable outer start rfl
  | emptyObject blank =>
    intro outer input rest _ start
    rw [List.cons_append, List.append_assoc] at start
    exact skipFrom_none .object blank outer start rfl
  | object entry entries framed each ih =>
    intro outer input rest _ start
    have skippable : ∀ part ∈ (entry :: entries).map Entry.padded, Skippable .object part :=
      List.forall_mem_map.mpr fun e member => e.skippable (framed e member) (each e member) (ih e member)
    rw [List.cons_append, List.append_assoc] at start
    exact skipFrom_parts .object skippable outer start rfl

theorem skipValue_spelled (spells : Spells v text) {input : List Char} (ends : Ends rest)
    (start : skipBlanks input = text ++ rest) : skipValue input = .ok rest := by
  rw [skipValue, spells.skips [] input rest ends start, skipFrom]

end DiagnosticSieve.Json
