import DiagnosticSieve.Proofs.HeaderGrammar

namespace DiagnosticSieve

open Text

def IsValue (digits : List Char) (n : UInt32) : Prop :=
  (∀ c ∈ digits, c.isDigit = true) ∧ Nat.ofDigitChars 10 digits 0 = n.toNat

theorem bind_word32?_eq_some_iff {number? : Option (List Char)}
    (number : ∀ digits ∈ number?, IsNumber digits) (n : UInt32) :
    number?.bind word32? = some n ↔ ∃ digits ∈ number?, IsValue digits n := by
  rw [Option.bind_eq_some_iff]
  exact exists_congr fun digits => and_congr_right fun given =>
    word32?_eq_some_iff (number digits given) n

theorem Location.Positions.isNumber {line column : Option (List Char)} {spelled : List Char}
    (positions : Positions line column spelled) :
    (∀ digits ∈ line, IsNumber digits) ∧ ∀ digits ∈ column, IsNumber digits := by
  cases positions with
  | absent => simp
  | line number => simp [number]
  | column number second => simp [number, second]

namespace Header

/-- A diagnostic says what its header says. Line and column are there if their digits have a value that
fits a word. -/
structure Opens (h : Header) (d : Diagnostic) : Prop where
  severity : d.severity = h.body.severity
  key : d.key = h.body.key.map String.ofList
  message : d.message = String.ofList h.body.message
  file : d.file = h.location.map fun l => String.ofList l.file
  line : ∀ n, d.line = some n ↔ ∃ digits ∈ h.location.bind Location.line, IsValue digits n
  column : ∀ n, d.column = some n ↔ ∃ digits ∈ h.location.bind Location.column, IsValue digits n

variable {h : Header} {line : List Char}

theorem Spells.isNumber (spells : h.Spells line) :
    (∀ digits ∈ h.location.bind Location.line, IsNumber digits) ∧
      ∀ digits ∈ h.location.bind Location.column, IsNumber digits := by
  obtain ⟨placed, _⟩ := spells
  cases at_l : h.location with
  | none => simp
  | some l =>
    rw [at_l] at placed
    cases placed with
    | present _ behind => exact behind.isNumber

theorem Spells.opens (spells : h.Spells line) (excerpt : List String) :
    h.Opens (h.diagnostic excerpt) where
  severity := rfl
  key := rfl
  message := rfl
  file := rfl
  line n := by
    rw [← bind_word32?_eq_some_iff spells.isNumber.1, Option.bind_assoc]
    rfl
  column n := by
    rw [← bind_word32?_eq_some_iff spells.isNumber.2, Option.bind_assoc]
    rfl

theorem Spells.file_eq (spells : h.Spells line) {l : Location} (located : h.location = some l) :
    l.file = line.takeWhile (· ≠ ':') := by
  obtain ⟨placed, _⟩ := spells
  rw [located] at placed
  exact placed.file_eq _

end Header

def IsHeader (line : List Char) : Prop := ∃ h : Header, h.Spells line

theorem isHeader_iff (line : List Char) : IsHeader line ↔ (Header.read? line).isSome = true := by
  rw [Option.isSome_iff_exists, Header.exists_read?_iff]
  rfl

instance : DecidablePred IsHeader := fun line => decidable_of_iff _ (isHeader_iff line).symm

end DiagnosticSieve
