namespace DiagnosticSieve.Text

/-- The bytes that may follow the first byte of a code, position by position, as ranges. Nothing
starts with any other byte above the ASCII ones. -/
def followers? (first : UInt8) : Option (List (UInt8 × UInt8)) :=
  if 0xC2 ≤ first && first ≤ 0xDF then some [(0x80, 0xBF)]
  else if first = 0xE0 then some [(0xA0, 0xBF), (0x80, 0xBF)]
  else if first = 0xED then some [(0x80, 0x9F), (0x80, 0xBF)]
  else if 0xE1 ≤ first && first ≤ 0xEF then some [(0x80, 0xBF), (0x80, 0xBF)]
  else if first = 0xF0 then some [(0x90, 0xBF), (0x80, 0xBF), (0x80, 0xBF)]
  else if 0xF1 ≤ first && first ≤ 0xF3 then some [(0x80, 0xBF), (0x80, 0xBF), (0x80, 0xBF)]
  else if first = 0xF4 then some [(0x80, 0x8F), (0x80, 0xBF), (0x80, 0xBF)]
  else none

def countFollowers : List (UInt8 × UInt8) → List UInt8 → Nat
  | [], _ | _, [] => 0
  | range :: ranges, b :: bytes =>
    if range.1 ≤ b && b ≤ range.2 then countFollowers ranges bytes + 1 else 0

def decodeChar (first : UInt8) (followers : List UInt8) : Char :=
  Char.ofNat (followers.foldl (fun value b => value * 64 + b.toNat % 64)
    (first.toNat % Nat.pow 2 (6 - followers.length)))

def replacementChar : Char := '\uFFFD'

def decodeLossy : List UInt8 → List Char
  | [] => []
  | first :: rest =>
    if first < 0x80 then Char.ofNat first.toNat :: decodeLossy rest
    else
      match followers? first with
      | none => replacementChar :: decodeLossy rest
      | some ranges =>
        let count := countFollowers ranges rest
        let c :=
          if count = ranges.length then decodeChar first (rest.take count) else replacementChar
        c :: decodeLossy (rest.drop count)
termination_by bytes => bytes.length
decreasing_by all_goals simp only [List.length_cons, List.length_drop]; omega

end DiagnosticSieve.Text
