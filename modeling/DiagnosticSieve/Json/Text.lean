import DiagnosticSieve.Json.Scan

namespace DiagnosticSieve.Json

def hexDigits : List Char :=
  ['0', '1', '2', '3', '4', '5', '6', '7', '8', '9', 'a', 'b', 'c', 'd', 'e', 'f']

def hexDigit (n : Nat) : Char := hexDigits[n]?.getD '0'

def hexValue? (c : Char) : Option Nat :=
  let n := c.toNat
  if 48 ≤ n ∧ n ≤ 57 then some (n - 48)
  else if 97 ≤ n ∧ n ≤ 102 then some (n - 87)
  else if 65 ≤ n ∧ n ≤ 70 then some (n - 55)
  else none

def shortEscape? : Char → Option Char
  | '"' => some '"'
  | '\\' => some '\\'
  | '/' => some '/'
  | 'b' => some '\x08'
  | 'f' => some '\x0c'
  | 'n' => some '\n'
  | 'r' => some '\r'
  | 't' => some '\t'
  | _ => none

def isControl (c : Char) : Bool := c.toNat < 0x20

def escape (c : Char) : List Char :=
  match c with
  | '"' => ['\\', '"']
  | '\\' => ['\\', '\\']
  | '\x08' => ['\\', 'b']
  | '\x0c' => ['\\', 'f']
  | '\n' => ['\\', 'n']
  | '\r' => ['\\', 'r']
  | '\t' => ['\\', 't']
  | c =>
    if isControl c then
      ['\\', 'u', '0', '0', hexDigit (c.toNat / 16), hexDigit (c.toNat % 16)]
    else [c]

def writeText (text : List Char) : List Char := '"' :: text.flatMap escape ++ ['"']

def codeUnit? (a b c d : Char) : Option Nat := do
  let a ← hexValue? a
  let b ← hexValue? b
  let c ← hexValue? c
  let d ← hexValue? d
  return ((a * 16 + b) * 16 + c) * 16 + d

def byteCount (text : List Char) : Nat := text.foldl (fun count c => count + c.utf8Size) 0

def readUnit (text : List Char) : Reading Nat :=
  if byteCount (text.take 4) < 4 then .error (.before .endInText [])
  else
    match text with
    | a :: b :: c :: d :: rest =>
      match codeUnit? a b c d with
      | some unit => .ok (unit, rest)
      | none => .error ⟨.invalidEscape, text, 4⟩
    | _ => .error ⟨.invalidEscape, text, 4⟩

def isHighSurrogate (unit : Nat) : Bool := 0xD800 ≤ unit && unit < 0xDC00

def isLowSurrogate (unit : Nat) : Bool := 0xDC00 ≤ unit && unit < 0xE000

def joinSurrogates (high low : Nat) : Char :=
  Char.ofNat (0x10000 + (high - 0xD800) * 0x400 + (low - 0xDC00))

def readLowSurrogate (high : Nat) : List Char → Reading Char
  | [] | ['\\'] => .error (.before .endInText [])
  | '\\' :: 'u' :: rest =>
    match readUnit rest with
    | .error e => .error e
    | .ok (low, rest) =>
      if isLowSurrogate low then .ok (joinSurrogates high low, rest)
      else .error (.before .loneSurrogate rest)
  | '\\' :: rest => .error (.head .unpairedEscape rest)
  | rest => .error (.head .unpairedEscape rest)

/-- Reads what follows a backslash. Where the string is not needed, surrogates may stand alone. -/
def readEscape (needed : Bool) : List Char → Reading Char
  | [] => .error (.before .endInText [])
  | 'u' :: rest =>
    match readUnit rest with
    | .error e => .error e
    | .ok (unit, rest) =>
      if needed && isLowSurrogate unit then .error (.before .loneSurrogate rest)
      else if needed && isHighSurrogate unit then readLowSurrogate unit rest
      else .ok (Char.ofNat unit, rest)
  | c :: rest =>
    match shortEscape? c with
    | some plain => .ok (plain, rest)
    | none => .error (.head .invalidEscape (c :: rest))

theorem readUnit_length_lt (text : List Char) (unit : Nat) (rest : List Char)
    (h : readUnit text = .ok (unit, rest)) : rest.length < text.length := by
  unfold readUnit at h
  split at h
  · simp at h
  split at h
  · split at h
    · simp only [Except.ok.injEq, Prod.mk.injEq] at h
      rw [← h.2]
      simp only [List.length_cons]
      omega
    · simp at h
  · simp at h

theorem readLowSurrogate_length_lt (high : Nat) (text : List Char) (c : Char) (rest : List Char)
    (h : readLowSurrogate high text = .ok (c, rest)) : rest.length < text.length := by
  unfold readLowSurrogate at h
  split at h
  · simp at h
  · simp at h
  · split at h
    · simp at h
    · rename_i low after found
      have shorter := readUnit_length_lt _ low after found
      split at h
      · simp only [Except.ok.injEq, Prod.mk.injEq] at h
        rw [← h.2]
        simp only [List.length_cons]
        omega
      · simp at h
  · simp at h
  · simp at h

theorem readEscape_length_lt (needed : Bool) (text : List Char) (c : Char) (rest : List Char)
    (h : readEscape needed text = .ok (c, rest)) : rest.length < text.length := by
  unfold readEscape at h
  split at h
  · simp at h
  · split at h
    · simp at h
    · rename_i unit after found
      have shorter := readUnit_length_lt _ unit after found
      split at h
      · simp at h
      split at h
      · have last := readLowSurrogate_length_lt unit after c rest h
        simp only [List.length_cons]
        omega
      · simp only [Except.ok.injEq, Prod.mk.injEq] at h
        rw [← h.2]
        simp only [List.length_cons]
        omega
  · split at h
    · simp only [Except.ok.injEq, Prod.mk.injEq] at h
      rw [← h.2]
      simp
    · simp at h

def controlFault (needed : Bool) (text : List Char) : Fault :=
  if needed then .head .controlCharacter text else .before .controlCharacter text

def readText (needed : Bool) : List Char → Reading (List Char)
  | [] => .error (.before .endInText [])
  | '"' :: rest => .ok ([], rest)
  | '\\' :: rest =>
    match _found : readEscape needed rest with
    | .error e => .error e
    | .ok (c, after) => (readText needed after).mapValue (c :: ·)
  | c :: rest =>
    if isControl c then .error (controlFault needed (c :: rest))
    else (readText needed rest).mapValue (c :: ·)
termination_by text => text.length
decreasing_by
  · have := readEscape_length_lt needed rest c after _found
    simp only [List.length_cons]
    omega
  · simp

theorem readText_length_lt (needed : Bool) (input text rest : List Char)
    (h : readText needed input = .ok (text, rest)) : rest.length < input.length := by
  fun_induction readText needed input generalizing text with
  | case1 => simp at h
  | case2 => simp_all
  | case3 => simp at h
  | case4 more c after found ih =>
    obtain ⟨tail, _, read⟩ := (mapValue_eq_ok_iff ..).mp h
    have shorter := readEscape_length_lt needed more c after found
    have last := ih tail read
    simp only [List.length_cons]
    omega
  | case5 => simp at h
  | case6 c more _ _ _ ih =>
    obtain ⟨tail, _, read⟩ := (mapValue_eq_ok_iff ..).mp h
    have last := ih tail read
    simp only [List.length_cons]
    omega

end DiagnosticSieve.Json
