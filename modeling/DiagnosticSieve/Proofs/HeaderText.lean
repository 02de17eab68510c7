import DiagnosticSieve.Proofs.HeaderGrammar
import DiagnosticSieve.Rendering
import DiagnosticSieve.Transcript

namespace DiagnosticSieve

namespace Text

theorem isNumber_toDigits (n : Nat) : IsNumber (Nat.toDigits 10 n) where
  nonempty := Nat.toDigits_ne_nil
  digit c member :=
    isDecimalDigit_of_isDigit c (Nat.isDigit_of_mem_toDigits (by decide) (by decide) member)

def wordDigits (n : UInt32) : List Char := (toString n).toList

theorem wordDigits_eq (n : UInt32) : wordDigits n = Nat.toDigits 10 n.toNat := Nat.toList_repr

theorem isDigit_of_mem_wordDigits {n : UInt32} {c : Char} (member : c ∈ wordDigits n) :
    c.isDigit = true := by
  rw [wordDigits_eq] at member
  exact Nat.isDigit_of_mem_toDigits (by decide) (by decide) member

theorem isNumber_wordDigits (n : UInt32) : IsNumber (wordDigits n) := by
  rw [wordDigits_eq]
  exact isNumber_toDigits n.toNat

theorem decimalValue_wordDigits (n : UInt32) : decimalValue (wordDigits n) = n.toNat := by
  rw [wordDigits_eq, decimalValue_toDigits]

theorem word32?_wordDigits (n : UInt32) : word32? (wordDigits n) = some n := by
  refine (word32?_eq_some_iff (isNumber_wordDigits n) n).mpr ⟨fun _ => isDigit_of_mem_wordDigits, ?_⟩
  rw [← decimalValue_eq, decimalValue_wordDigits]

end Text

open Text

namespace Location

def positionText (line column : Option UInt32) : List Char :=
  match line, column with
  | none, _ => [' ']
  | some n, none => wordDigits n ++ [':', ' ']
  | some n, some m => wordDigits n ++ ':' :: (wordDigits m ++ [':', ' '])

theorem positions_positionText {line column : Option UInt32}
    (lined : column.isSome = true → line.isSome = true) :
    Positions (line.map wordDigits) (column.map wordDigits) (positionText line column) := by
  cases line with
  | none =>
    cases column with
    | none => exact .absent
    | some m => cases lined rfl
  | some n =>
    cases column with
    | none => exact .line (isNumber_wordDigits n)
    | some m => exact .column (isNumber_wordDigits n) (isNumber_wordDigits m)

theorem mem_positionText {line column : Option UInt32} {c : Char}
    (member : c ∈ positionText line column) : c.isDigit = true ∨ c = ':' ∨ c = ' ' := by
  have digit {n : UInt32} (inside : c ∈ wordDigits n) := isDigit_of_mem_wordDigits inside
  cases line with
  | none => exact .inr (.inr (List.mem_singleton.mp member))
  | some n =>
    cases column with
    | none =>
      simp only [positionText, List.mem_append, List.mem_cons, List.not_mem_nil, or_false] at member
      exact member.imp_left digit
    | some m =>
      simp only [positionText, List.mem_append, List.mem_cons, List.not_mem_nil, or_false] at member
      rcases member with first | colon | second | last
      · exact .inl (digit first)
      · exact .inr (.inl colon)
      · exact .inl (digit second)
      · exact .inr last

theorem read?_eq_some {text rest : List Char} {l : Location} (found : read? text = some (l, rest)) :
    IsFile l.file ∧ ∃ after, text = l.file ++ ':' :: after ∧ rest <:+ after := by
  obtain ⟨file, after, spelled, placed⟩ := exists_isFile_of_read? found
  obtain ⟨positions, _, rfl⟩ := positions?_sound placed
  exact ⟨file, _, spelled, List.suffix_append ..⟩

end Location

namespace HeaderBody

def restText (key : Option (List Char)) (message : List Char) : List Char :=
  match key with
  | none => message
  | some key => '[' :: (key ++ ']' :: ' ' :: message)

theorem Tells.restText_eq {key : Option (List Char)} {rest message : List Char}
    (tells : Tells rest key message) : restText key message = rest := by
  cases tells with
  | keyed _ spelled => exact spelled.symm
  | bare _ => rfl

def text (b : HeaderBody) : List Char :=
  b.severity.word.toList ++ " - ".toList ++ restText b.key b.message

theorem text_of_read? {text : List Char} {b : HeaderBody} (found : read? text = some b) :
    b.text = text := by
  obtain ⟨rest, rfl, tells⟩ := (read?_eq_some_iff ..).mp found
  rw [HeaderBody.text, tells.restText_eq]
  rfl

end HeaderBody

theorem Diagnostic.toList_locationText (d : Diagnostic) (file : String) (given : d.file = some file) :
    d.locationText.toList = file.toList ++ ':' :: Location.positionText d.line d.column := by
  rw [locationText, given]
  cases d.line with
  | none => simp [Location.positionText, String.toList_append]
  | some n =>
    cases d.column <;>
      simp [Location.positionText, wordDigits, String.toList_append, List.append_assoc]

namespace Header

/-- The header of a diagnostic ends in the same text as the one it was read from. -/
theorem toList_headerText (h : Header) (excerpt : List String) :
    (h.diagnostic excerpt).headerText.toList =
      (h.diagnostic excerpt).locationText.toList ++ h.body.text := by
  rw [Diagnostic.headerText, HeaderBody.text]
  cases key : h.body.key <;>
    simp [Diagnostic.keyText, diagnostic, key, HeaderBody.restText, String.toList_append,
      List.append_assoc]

theorem bind_word32?_map_wordDigits (n : Option UInt32) : (n.map wordDigits).bind word32? = n := by
  cases n with
  | none => rfl
  | some n => exact word32?_wordDigits n

theorem read?_headerText {line : List Char} {h : Header} (found : read? line = some h)
    (excerpt : List String)
    (lined : (h.diagnostic excerpt).column.isSome = true → (h.diagnostic excerpt).line.isSome = true) :
    ∃ again, read? (h.diagnostic excerpt).headerText.toList = some again ∧
      ∀ more, again.diagnostic more = h.diagnostic more := by
  rw [toList_headerText]
  rcases (read?_eq_some_iff ..).mp found with located | ⟨_, bare⟩
  · obtain ⟨l, rest, placed, at_l, told⟩ := (readLocated?_eq_some_iff ..).mp located
    obtain ⟨file, _⟩ := Location.read?_eq_some placed
    have given : (h.diagnostic excerpt).file = some (String.ofList l.file) := by
      simp [diagnostic, at_l]
    refine ⟨⟨some ⟨l.file, (h.diagnostic excerpt).line.map wordDigits,
      (h.diagnostic excerpt).column.map wordDigits⟩, h.body⟩, ?_, ?_⟩
    · rw [read?_eq_some_iff, readLocated?_eq_some_iff]
      refine .inl ⟨_, rest, ?_, rfl, told⟩
      rw [Diagnostic.toList_locationText _ _ given, String.toList_ofList, List.append_assoc,
        List.cons_append, Location.read?_of_isFile file,
        Location.positions?_spelled (Location.positions_positionText lined),
        HeaderBody.text_of_read? told]
      rfl
    · intro more
      simp only [diagnostic, at_l, Option.map_some, Option.bind_some, bind_word32?_map_wordDigits]
  · obtain ⟨body, told, rfl⟩ := Option.map_eq_some_iff.mp bare
    exact ⟨_, by rwa [HeaderBody.text_of_read? told], fun _ => rfl⟩

theorem mem_headerText {line : List Char} {h : Header} (found : read? line = some h)
    {excerpt : List String} {c : Char} (member : c ∈ (h.diagnostic excerpt).headerText.toList) :
    c ∈ line ∨ c.isDigit = true ∨ c = ':' ∨ c = ' ' := by
  rw [toList_headerText] at member
  rcases (read?_eq_some_iff ..).mp found with located | ⟨_, bare⟩
  · obtain ⟨l, rest, placed, at_l, told⟩ := (readLocated?_eq_some_iff ..).mp located
    obtain ⟨_, after, spelled, back⟩ := Location.read?_eq_some placed
    have given : (h.diagnostic excerpt).file = some (String.ofList l.file) := by
      simp [diagnostic, at_l]
    rw [Diagnostic.toList_locationText _ _ given, String.toList_ofList, List.append_assoc,
      List.cons_append, HeaderBody.text_of_read? told, List.mem_append, List.mem_cons,
      List.mem_append] at member
    rcases member with inFile | colon | position | inRest
    · exact .inl (by simp [spelled, inFile])
    · exact .inr (.inr (.inl colon))
    · exact .inr (Location.mem_positionText position)
    · exact .inl (by simp [spelled, back.subset inRest])
  · obtain ⟨body, told, rfl⟩ := Option.map_eq_some_iff.mp bare
    rw [HeaderBody.text_of_read? told] at member
    exact .inl member

end Header

end DiagnosticSieve
