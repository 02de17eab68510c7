import DiagnosticSieve.Json.Scan

namespace DiagnosticSieve.Json

structure Numeral where
  whole : List Char
  fraction : List Char
  exponent : Option (Bool × List Char)
  deriving DecidableEq, Repr

namespace Numeral

def spanDigits (text : List Char) : List Char × List Char :=
  (text.takeWhile Char.isDigit, text.dropWhile Char.isDigit)

/-- Digits that have to be there. The fault of a text that ends before them depends on the reader. -/
def readDigits (cut : Cause) (text : List Char) : Reading (List Char) :=
  if (spanDigits text).1 = [] then
    .error (.head (if text = [] then cut else .invalidNumber) text)
  else .ok (spanDigits text)

def readWhole (cut : Cause) (text : List Char) : Reading (List Char) :=
  match readDigits cut text with
  | .ok ('0' :: d :: more, rest) => .error (.head .invalidNumber (d :: more ++ rest))
  | reading => reading

def readFraction (cut : Cause) : List Char → Reading (List Char)
  | '.' :: text => readDigits cut text
  | text => .ok ([], text)

def spanSign : List Char → Bool × List Char
  | '-' :: text => (true, text)
  | '+' :: text => (false, text)
  | text => (false, text)

def readExponent (cut : Cause) : List Char → Reading (Option (Bool × List Char))
  | 'e' :: text | 'E' :: text =>
    (readDigits cut (spanSign text).2).mapValue fun digits => some ((spanSign text).1, digits)
  | text => .ok (none, text)

def read (cut : Cause) (text : List Char) : Except Fault (Numeral × List Char) := do
  let (whole, text) ← readWhole cut text
  let (fraction, text) ← readFraction cut text
  let (exponent, text) ← readExponent cut text
  pure (⟨whole, fraction, exponent⟩, text)

theorem spanDigits_length (text : List Char) :
    (spanDigits text).1.length + (spanDigits text).2.length = text.length := by
  rw [spanDigits, ← List.length_append, List.takeWhile_append_dropWhile]

theorem readDigits_length_lt (cut : Cause) (text digits rest : List Char)
    (h : readDigits cut text = .ok (digits, rest)) : rest.length < text.length := by
  have total := spanDigits_length text
  unfold readDigits at h
  split at h
  · simp at h
  · rename_i some
    have found : spanDigits text = (digits, rest) := by simpa using h
    rw [found] at total some
    have := List.length_pos_iff.mpr some
    simp only at total this
    omega

theorem readWhole_length_lt (cut : Cause) (text digits rest : List Char)
    (h : readWhole cut text = .ok (digits, rest)) : rest.length < text.length := by
  unfold readWhole at h
  split at h
  · simp at h
  · exact readDigits_length_lt cut text digits rest h

theorem readFraction_length_le (cut : Cause) (text digits rest : List Char)
    (h : readFraction cut text = .ok (digits, rest)) : rest.length ≤ text.length := by
  unfold readFraction at h
  split at h
  · have := readDigits_length_lt cut _ digits rest h
    simp only [List.length_cons]
    omega
  · simp_all

theorem spanSign_length_le (text : List Char) : (spanSign text).2.length ≤ text.length := by
  unfold spanSign
  split <;> simp

theorem readExponent_length_le (cut : Cause) (text : List Char)
    (exponent : Option (Bool × List Char)) (rest : List Char)
    (h : readExponent cut text = .ok (exponent, rest)) : rest.length ≤ text.length := by
  have digits (more : List Char)
      (h : ((readDigits cut (spanSign more).2).mapValue fun digits =>
        some ((spanSign more).1, digits)) = .ok (exponent, rest)) : rest.length ≤ more.length := by
    have signed := spanSign_length_le more
    obtain ⟨digits, _, found⟩ := (mapValue_eq_ok_iff ..).mp h
    have := readDigits_length_lt cut _ digits rest found
    omega
  unfold readExponent at h
  split at h
  · exact Nat.le_succ_of_le (digits _ h)
  · exact Nat.le_succ_of_le (digits _ h)
  · simp_all

theorem read_length_lt (cut : Cause) (text : List Char) (n : Numeral) (rest : List Char)
    (h : read cut text = .ok (n, rest)) : rest.length < text.length := by
  unfold read at h
  cases hw : readWhole cut text with
  | error e => simp [hw, bind, Except.bind] at h
  | ok w =>
    cases hf : readFraction cut w.2 with
    | error e => simp [hw, hf, bind, Except.bind] at h
    | ok f =>
      cases he : readExponent cut f.2 with
      | error e => simp [hw, hf, he, bind, Except.bind] at h
      | ok e =>
        have first := readWhole_length_lt cut text w.1 w.2 hw
        have second := readFraction_length_le cut w.2 f.1 f.2 hf
        have third := readExponent_length_le cut f.2 e.1 e.2 he
        simp only [hw, hf, he, bind, Except.bind, pure, Except.pure, Except.ok.injEq,
          Prod.mk.injEq] at h
        rw [← h.2]
        omega

end Numeral

end DiagnosticSieve.Json
