import DiagnosticSieve.Json.Scalar

namespace DiagnosticSieve.Json

namespace Bracket

def ofOpening? : Char → Option Bracket
  | '[' => some list
  | '\x7b' => some object
  | _ => none

def skipKey (b : Bracket) (text : List Char) : Except Fault (List Char) :=
  match b with
  | list => .ok text
  | object =>
    match skipBlanks text with
    | [] => .error (.head .endInObject [])
    | '"' :: rest =>
      match readText false rest with
      | .error e => .error e
      | .ok (_, rest) => expectColon rest
    | rest => .error (.head .keyNotText rest)

theorem skipKey_length_le (b : Bracket) (text rest : List Char) (h : b.skipKey text = .ok rest) :
    rest.length ≤ text.length := by
  have outer := skipBlanks_length_le text
  cases b with
  | list =>
    simp only [skipKey, Except.ok.injEq] at h
    exact Nat.le_of_eq (congrArg List.length h.symm)
  | object =>
    simp only [skipKey] at h
    split at h
    · simp at h
    · rename_i found
      split at h
      · simp at h
      · rename_i more after read
        have shorter := readText_length_lt false _ _ after read
        have colon := expectColon_length_lt after rest h
        rw [found, List.length_cons] at outer
        omega
    · simp at h

end Bracket

/-- What skipping stands before: a value, or whatever may follow one. -/
inductive Stage
  | value | afterValue
  deriving DecidableEq, Repr

-- The brackets that are open are kept in a list, since there is no limit to their depth.
def skipFrom (stage : Stage) (outer : List Bracket) (text : List Char) : Except Fault (List Char) :=
  match stage, outer with
  | .afterValue, [] => .ok text
  | .afterValue, b :: outer =>
    match _start : skipBlanks text with
    | [] => .error (.head b.endCause [])
    | c :: rest =>
      if c = b.closing then skipFrom .afterValue outer rest
      else if c = ',' then
        match _key : b.skipKey rest with
        | .error e => .error e
        | .ok rest => skipFrom .value (b :: outer) rest
      else .error (.head b.commaCause (c :: rest))
  | .value, outer =>
    match _start : skipBlanks text with
    | [] => .error (.head .endInValue [])
    | c :: rest =>
      match Bracket.ofOpening? c with
      | some b =>
        match _inside : skipBlanks rest with
        | [] => .error (.head b.endCause [])
        | d :: more =>
          if d = b.closing then skipFrom .afterValue outer more
          else
            match _key : b.skipKey (d :: more) with
            | .error e => .error e
            | .ok rest => skipFrom .value (b :: outer) rest
      | none =>
        match _scalar : Scalar.skip (c :: rest) with
        | .error e => .error e
        | .ok rest => skipFrom .afterValue outer rest
termination_by text.length
decreasing_by
  all_goals have first := length_lt_of_skipBlanks_eq_cons _start
  · exact first
  · have := b.skipKey_length_le _ _ _key
    omega
  · have := length_lt_of_skipBlanks_eq_cons _inside
    omega
  · have := length_lt_of_skipBlanks_eq_cons _inside
    have := b.skipKey_length_le _ _ _key
    simp only [List.length_cons] at this
    omega
  · have := Scalar.skip_length_lt _ _ _scalar
    simp only [List.length_cons] at this
    omega

theorem skipFrom_length_le (stage : Stage) (outer : List Bracket) (text rest : List Char)
    (h : skipFrom stage outer text = .ok rest) : rest.length ≤ text.length := by
  fun_induction skipFrom stage outer text with
  | case1 => simp_all
  | case2 | case4 | case6 | case7 | case8 | case10 | case12 => simp at h
  | case3 text b outer more start ih =>
    have first := length_lt_of_skipBlanks_eq_cons start
    have last := ih h
    omega
  | case5 text b outer more after key start _ ih =>
    have first := length_lt_of_skipBlanks_eq_cons start
    have middle := b.skipKey_length_le _ _ key
    have last := ih h
    omega
  | case9 text outer c more start b found inside step ih =>
    have first := length_lt_of_skipBlanks_eq_cons start
    have second := length_lt_of_skipBlanks_eq_cons step
    have last := ih h
    omega
  | case11 text outer c more start b found d inside step _ after key ih =>
    have first := length_lt_of_skipBlanks_eq_cons start
    have second := length_lt_of_skipBlanks_eq_cons step
    have middle := b.skipKey_length_le _ _ key
    have last := ih h
    rw [List.length_cons] at middle
    omega
  | case13 text outer c more start _ after scalar ih =>
    have first := length_lt_of_skipBlanks_eq_cons start
    have middle := Scalar.skip_length_lt _ _ scalar
    have last := ih h
    rw [List.length_cons] at middle
    omega

def skipValue (text : List Char) : Except Fault (List Char) := skipFrom .value [] text

end DiagnosticSieve.Json
