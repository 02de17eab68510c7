import DiagnosticSieve.Json.Fault

namespace DiagnosticSieve.Json

abbrev Reading (α : Type) := Except Fault (α × List Char)

def Reading.mapValue {α β : Type} (f : α → β) (reading : Reading α) : Reading β :=
  reading.map fun (value, rest) => (f value, rest)

theorem mapValue_eq_ok_iff {α β : Type} (f : α → β) (reading : Reading α) (value : β)
    (rest : List Char) :
    reading.mapValue f = .ok (value, rest) ↔ ∃ a, f a = value ∧ reading = .ok (a, rest) := by
  cases reading with
  | error e => simp [Reading.mapValue, Except.map]
  | ok found =>
    obtain ⟨a, last⟩ := found
    simp only [Reading.mapValue, Except.map, Except.ok.injEq, Prod.mk.injEq]
    constructor
    · rintro ⟨same, rfl⟩
      exact ⟨a, same, rfl, rfl⟩
    · rintro ⟨_, same, rfl, rfl⟩
      exact ⟨same, rfl⟩

def isBlank (c : Char) : Bool := c = ' ' || c = '\n' || c = '\t' || c = '\r'

def skipBlanks (text : List Char) : List Char := text.dropWhile isBlank

theorem skipBlanks_length_le (text : List Char) : (skipBlanks text).length ≤ text.length :=
  (List.dropWhile_sublist isBlank).length_le

theorem length_lt_of_skipBlanks_eq_cons {text rest : List Char} {c : Char}
    (h : skipBlanks text = c :: rest) : rest.length < text.length := by
  have outer := skipBlanks_length_le text
  rw [h, List.length_cons] at outer
  exact outer

theorem skipBlanks_cons (c : Char) (rest : List Char) (dark : isBlank c = false) :
    skipBlanks (c :: rest) = c :: rest := by
  simp [skipBlanks, dark]

def expectWord : List Char → List Char → Except Fault (List Char)
  | [], text => .ok text
  | _ :: _, [] => .error (.head .endInValue [])
  | w :: word, c :: rest =>
    if w = c then expectWord word rest else .error (.head .misspeltWord (c :: rest))

theorem expectWord_eq_ok_iff (word text rest : List Char) :
    expectWord word text = .ok rest ↔ text = word ++ rest := by
  induction word generalizing text with
  | nil => simp [expectWord]
  | cons w word ih =>
    cases text with
    | nil => simp [expectWord]
    | cons c text =>
      by_cases same : w = c
      · simp [expectWord, same, ih]
      · simp [expectWord, same, Ne.symm same]

theorem expectWord_map_length_le {α : Type} (word text : List Char) (value a : α)
    (rest : List Char)
    (h : ((expectWord word text).map fun rest => (value, rest)) = .ok (a, rest)) :
    rest.length ≤ text.length := by
  cases found : expectWord word text with
  | error e => simp [found, Except.map] at h
  | ok last =>
    simp only [found, Except.map, Except.ok.injEq, Prod.mk.injEq] at h
    rw [(expectWord_eq_ok_iff word text last).mp found, ← h.2]
    simp

inductive Bracket
  | list | object
  deriving DecidableEq, Repr

namespace Bracket

def closing : Bracket → Char
  | list => ']'
  | object => '\x7d'

def endCause : Bracket → Cause
  | list => .endInList
  | object => .endInObject

def commaCause : Bracket → Cause
  | list => .expectedCommaOrBracket
  | object => .expectedCommaOrBrace

end Bracket

/-- What follows inside brackets: an item, at its first character, or the end, behind the closing
bracket. -/
inductive Next
  | item (text : List Char)
  | close (rest : List Char)
  deriving DecidableEq, Repr

namespace Bracket

def next (b : Bracket) (first : Bool) (text : List Char) : Except Fault Next :=
  match skipBlanks text with
  | [] => .error (.head b.endCause [])
  | c :: rest =>
    if c = b.closing then .ok (.close rest)
    else if first then .ok (.item (c :: rest))
    else if c = ',' then
      match skipBlanks rest with
      | [] => .error (.head .endInValue [])
      | d :: rest =>
        if d = b.closing then .error (.head .trailingComma (d :: rest)) else .ok (.item (d :: rest))
    else .error (.head b.commaCause (c :: rest))

theorem next_item_length_le (b : Bracket) (first : Bool) (text item : List Char)
    (h : b.next first text = .ok (.item item)) : item.length ≤ text.length := by
  unfold next at h
  split at h
  · simp at h
  · rename_i c rest found
    have short := length_lt_of_skipBlanks_eq_cons found
    split at h
    · simp at h
    split at h
    · simp only [Except.ok.injEq, Next.item.injEq] at h
      rw [← h]
      exact short
    split at h
    · split at h
      · simp at h
      · rename_i d more deeper
        have shorter := length_lt_of_skipBlanks_eq_cons deeper
        split at h
        · simp at h
        · simp only [Except.ok.injEq, Next.item.injEq] at h
          rw [← h, List.length_cons]
          omega
    · simp at h

theorem next_close_length_le (b : Bracket) (first : Bool) (text rest : List Char)
    (h : b.next first text = .ok (.close rest)) : rest.length ≤ text.length := by
  unfold next at h
  split at h
  · simp at h
  · rename_i found
    have short := length_lt_of_skipBlanks_eq_cons found
    split at h
    · simp only [Except.ok.injEq, Next.close.injEq] at h
      rw [← h]
      omega
    split at h
    · simp at h
    split at h
    · split at h
      · simp at h
      · split at h <;> simp at h
    · simp at h

end Bracket

def expectColon (text : List Char) : Except Fault (List Char) :=
  match skipBlanks text with
  | [] => .error (.head .endInObject [])
  | ':' :: rest => .ok rest
  | rest => .error (.head .expectedColon rest)

theorem expectColon_length_lt (text rest : List Char) (h : expectColon text = .ok rest) :
    rest.length < text.length := by
  unfold expectColon at h
  split at h
  · simp at h
  · rename_i more found
    simp only [Except.ok.injEq] at h
    rw [← h]
    exact length_lt_of_skipBlanks_eq_cons found
  · simp at h

end DiagnosticSieve.Json
