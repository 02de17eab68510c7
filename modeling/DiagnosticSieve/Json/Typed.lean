import DiagnosticSieve.Json.Scalar

namespace DiagnosticSieve.Json

def mismatch (expected : String) : List Char → Fault
  | '[' :: rest => .before (.wrongType "sequence" expected) ('[' :: rest)
  | '\x7b' :: rest => .before (.wrongType "map" expected) ('\x7b' :: rest)
  | text =>
    match Scalar.read text with
    | .error e => e
    | .ok (scalar, rest) => .before (.wrongType scalar.describe expected) rest

def readString (text : List Char) : Reading String :=
  match skipBlanks text with
  | [] => .error (.head .endInValue [])
  | '"' :: rest => (readText true rest).mapValue String.ofList
  | text => .error (mismatch "a string" text)

def readBoolean (text : List Char) : Reading Bool :=
  match skipBlanks text with
  | [] => .error (.head .endInValue [])
  | 't' :: rest => (expectWord "rue".toList rest).map fun rest => (true, rest)
  | 'f' :: rest => (expectWord "alse".toList rest).map fun rest => (false, rest)
  | text => .error (mismatch "a boolean" text)

theorem readString_length_lt (text : List Char) (value : String) (rest : List Char)
    (h : readString text = .ok (value, rest)) : rest.length < text.length := by
  unfold readString at h
  split at h
  · simp at h
  · rename_i more start
    have first := length_lt_of_skipBlanks_eq_cons start
    obtain ⟨letters, _, found⟩ := (mapValue_eq_ok_iff ..).mp h
    have second := readText_length_lt true more letters rest found
    omega
  · simp at h

theorem readBoolean_length_lt (text : List Char) (value : Bool) (rest : List Char)
    (h : readBoolean text = .ok (value, rest)) : rest.length < text.length := by
  unfold readBoolean at h
  split at h
  · simp at h
  · rename_i start
    exact Nat.lt_of_le_of_lt (expectWord_map_length_le _ _ _ _ _ h)
      (length_lt_of_skipBlanks_eq_cons start)
  · rename_i start
    exact Nat.lt_of_le_of_lt (expectWord_map_length_le _ _ _ _ _ h)
      (length_lt_of_skipBlanks_eq_cons start)
  · simp at h

def readStringsFrom (first : Bool) (text : List Char) : Reading (List String) :=
  match _next : Bracket.list.next first text with
  | .error e => .error e
  | .ok (.close rest) => .ok ([], rest)
  | .ok (.item item) =>
    match _string : readString item with
    | .error e => .error e
    | .ok (value, rest) =>
      (readStringsFrom false rest).mapValue (value :: ·)
termination_by text.length
decreasing_by
  have := Bracket.next_item_length_le _ _ _ _ _next
  have := readString_length_lt _ _ _ _string
  omega

def readStrings (text : List Char) : Reading (List String) :=
  match skipBlanks text with
  | [] => .error (.head .endInValue [])
  | '[' :: rest => readStringsFrom true rest
  | text => .error (mismatch "a sequence" text)

theorem readStringsFrom_length_le (first : Bool) (text : List Char) (values : List String)
    (rest : List Char) (h : readStringsFrom first text = .ok (values, rest)) :
    rest.length ≤ text.length := by
  fun_induction readStringsFrom first text generalizing values with
  | case1 => simp at h
  | case2 first text more next =>
    simp only [Except.ok.injEq, Prod.mk.injEq] at h
    rw [← h.2]
    exact Bracket.list.next_close_length_le first text more next
  | case3 => simp at h
  | case4 first text item next value more found ih =>
    have start := Bracket.list.next_item_length_le first text item next
    have middle := readString_length_lt item value more found
    obtain ⟨tail, _, last⟩ := (mapValue_eq_ok_iff ..).mp h
    have shorter := ih tail last
    omega

theorem readStrings_length_lt (text : List Char) (values : List String) (rest : List Char)
    (h : readStrings text = .ok (values, rest)) : rest.length < text.length := by
  unfold readStrings at h
  split at h
  · simp at h
  · rename_i start
    exact Nat.lt_of_le_of_lt (readStringsFrom_length_le _ _ _ _ h)
      (length_lt_of_skipBlanks_eq_cons start)
  · simp at h

end DiagnosticSieve.Json
