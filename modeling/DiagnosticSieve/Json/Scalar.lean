import DiagnosticSieve.Json.Number
import DiagnosticSieve.Json.Text
import DiagnosticSieve.Text.Printable

namespace DiagnosticSieve.Json

inductive Scalar
  | null
  | boolean (value : Bool)
  | number (value : Number)
  | text (value : List Char)

namespace Scalar

def describe : Scalar → String
  | null => "null"
  | boolean value => "boolean `" ++ toString value ++ "`"
  | number value => value.describe
  | text value => "string " ++ Text.quoted value

def read : List Char → Reading Scalar
  | 'n' :: rest => (expectWord "ull".toList rest).map fun rest => (null, rest)
  | 't' :: rest => (expectWord "rue".toList rest).map fun rest => (boolean true, rest)
  | 'f' :: rest => (expectWord "alse".toList rest).map fun rest => (boolean false, rest)
  | '"' :: rest => (readText true rest).mapValue text
  | '-' :: rest => (readNumber true rest).mapValue number
  | rest =>
    if (rest.head?.map Char.isDigit).getD false then
      (readNumber false rest).mapValue number
    else .error (.head .expectedValue rest)

def skip : List Char → Except Fault (List Char)
  | 'n' :: rest => expectWord "ull".toList rest
  | 't' :: rest => expectWord "rue".toList rest
  | 'f' :: rest => expectWord "alse".toList rest
  | '"' :: rest => (readText false rest).map Prod.snd
  | '-' :: rest => (Numeral.read .invalidNumber rest).map Prod.snd
  | rest =>
    if (rest.head?.map Char.isDigit).getD false then
      (Numeral.read .invalidNumber rest).map Prod.snd
    else .error (.head .expectedValue rest)

theorem skip_length_lt (text rest : List Char) (h : skip text = .ok rest) :
    rest.length < text.length := by
  have word (letters more : List Char) (h : expectWord letters more = .ok rest) :
      rest.length ≤ more.length := by
    rw [(expectWord_eq_ok_iff letters more rest).mp h]
    simp
  have string (more : List Char) (h : (readText false more).map Prod.snd = .ok rest) :
      rest.length < more.length := by
    cases found : readText false more with
    | error e => simp [found, Except.map] at h
    | ok reading =>
      rw [found, Except.map, Except.ok.injEq] at h
      rw [← h]
      exact readText_length_lt false more reading.1 reading.2 found
  have numeral (more : List Char) (h : (Numeral.read .invalidNumber more).map Prod.snd = .ok rest) :
      rest.length < more.length := by
    cases found : Numeral.read .invalidNumber more with
    | error e => simp [found, Except.map] at h
    | ok reading =>
      rw [found, Except.map, Except.ok.injEq] at h
      rw [← h]
      exact Numeral.read_length_lt _ more reading.1 reading.2 found
  unfold skip at h
  split at h
  · exact Nat.lt_succ_of_le (word _ _ h)
  · exact Nat.lt_succ_of_le (word _ _ h)
  · exact Nat.lt_succ_of_le (word _ _ h)
  · exact Nat.lt_succ_of_lt (string _ h)
  · exact Nat.lt_succ_of_lt (numeral _ h)
  · split at h
    · exact numeral _ h
    · simp at h

end Scalar

end DiagnosticSieve.Json
