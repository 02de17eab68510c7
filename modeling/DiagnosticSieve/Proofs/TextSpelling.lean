import DiagnosticSieve.Json.Text

namespace DiagnosticSieve.Json

inductive SpellsChar : Char → List Char → Prop
  | plain {c : Char} (noQuote : c ≠ '"') (noSlash : c ≠ '\\') (visible : isControl c = false) :
      SpellsChar c [c]
  | short {c letter : Char} (known : shortEscape? letter = some c) : SpellsChar c ['\\', letter]
  | unit {c a b d e : Char} (code : codeUnit? a b d e = some c.toNat) :
      SpellsChar c ['\\', 'u', a, b, d, e]
  | pair {c a b d e f g i j : Char} {high low : Nat} (first : codeUnit? a b d e = some high)
      (second : codeUnit? f g i j = some low) (isHigh : isHighSurrogate high = true)
      (isLow : isLowSurrogate low = true)
      (joined : c.toNat = 0x10000 + (high - 0xD800) * 0x400 + (low - 0xDC00)) :
      SpellsChar c ['\\', 'u', a, b, d, e, '\\', 'u', f, g, i, j]

inductive SpellsChars : List Char → List Char → Prop
  | nil : SpellsChars [] []
  | cons {c : Char} {text first rest : List Char} (head : SpellsChar c first)
      (tail : SpellsChars text rest) : SpellsChars (c :: text) (first ++ rest)

inductive SpellsText : List Char → List Char → Prop
  | quoted {text inner : List Char} (chars : SpellsChars text inner) :
      SpellsText text ('"' :: (inner ++ ['"']))

theorem hexValue?_hexDigit : ∀ n < 16, hexValue? (hexDigit n) = some n := by decide

theorem codeUnit?_hexDigits {n : Nat} (small : n < 256) :
    codeUnit? '0' '0' (hexDigit (n / 16)) (hexDigit (n % 16)) = some n := by
  have high : hexValue? (hexDigit (n / 16)) = some (n / 16) := hexValue?_hexDigit _ (by omega)
  have low : hexValue? (hexDigit (n % 16)) = some (n % 16) := hexValue?_hexDigit _ (by omega)
  have zero : hexValue? '0' = some 0 := rfl
  simp only [codeUnit?, zero, high, low, bind, Option.bind, pure, Option.some.injEq]
  omega

theorem spellsChar_escape (c : Char) : SpellsChar c (escape c) := by
  rw [escape.eq_def]
  split
  case h_8 noQuote noSlash _ _ _ _ _ =>
    cases control : isControl c with
    | true =>
      have small : c.toNat < 256 := by
        have below := of_decide_eq_true control
        omega
      rw [if_pos rfl]
      exact .unit (codeUnit?_hexDigits small)
    | false =>
      rw [if_neg Bool.false_ne_true]
      exact .plain noQuote noSlash control
  all_goals exact .short rfl

theorem spellsText_writeText (text : List Char) : SpellsText text (writeText text) := by
  apply SpellsText.quoted
  induction text with
  | nil => exact .nil
  | cons c text ih => exact .cons (spellsChar_escape c) ih

theorem readUnit_of_codeUnit {a b c d : Char} {n : Nat} (code : codeUnit? a b c d = some n)
    (rest : List Char) : readUnit (a :: b :: c :: d :: rest) = .ok (n, rest) := by
  have long : ¬ byteCount ((a :: b :: c :: d :: rest).take 4) < 4 := by
    have first := a.utf8Size_pos
    have second := b.utf8Size_pos
    have third := c.utf8Size_pos
    have fourth := d.utf8Size_pos
    simp only [List.take_succ_cons, List.take_zero, byteCount, List.foldl_cons, List.foldl_nil]
    omega
  rw [readUnit.eq_def, if_neg long]
  simp only [code]

theorem not_surrogate (c : Char) :
    isLowSurrogate c.toNat = false ∧ isHighSurrogate c.toNat = false := by
  have valid : c.toNat < 0xD800 ∨ 0xDFFF < c.toNat ∧ c.toNat < 0x110000 := c.valid
  simp only [isHighSurrogate, isLowSurrogate, Bool.and_eq_false_iff, decide_eq_false_iff_not]
  omega

theorem readText_of_escape {needed : Bool} {text after : List Char} {c : Char}
    (found : readEscape needed text = .ok (c, after)) :
    readText needed ('\\' :: text) = (readText needed after).mapValue (c :: ·) := by
  rw [readText]
  split
  case h_1 e refused => simp [found] at refused
  case h_2 same =>
    rw [found] at same
    cases same
    rfl

theorem readText_of_plain {needed : Bool} {c : Char} (noQuote : c ≠ '"') (noSlash : c ≠ '\\')
    (plain : isControl c = false) (rest : List Char) :
    readText needed (c :: rest) = (readText needed rest).mapValue (c :: ·) := by
  rw [readText]
  · simp [plain]
  · exact noQuote
  · exact noSlash

theorem readEscape_short {needed : Bool} {letter c : Char} (known : shortEscape? letter = some c)
    (rest : List Char) : readEscape needed (letter :: rest) = .ok (c, rest) := by
  have other : letter ≠ 'u' := by
    rintro rfl
    cases known
  rw [readEscape]
  · simp only [known]
  · exact other

theorem readEscape_unit (needed : Bool) {a b c d : Char} {n : Nat}
    (code : codeUnit? a b c d = some n)
    (single : needed = true → isLowSurrogate n = false ∧ isHighSurrogate n = false)
    (rest : List Char) :
    readEscape needed ('u' :: a :: b :: c :: d :: rest) = .ok (Char.ofNat n, rest) := by
  rw [readEscape, readUnit_of_codeUnit code]
  cases needed with
  | true => simp [single rfl]
  | false => rfl

theorem readEscape_pair {a b c d e f g i : Char} {high low : Nat}
    (first : codeUnit? a b c d = some high) (second : codeUnit? e f g i = some low)
    (isHigh : isHighSurrogate high = true) (isLow : isLowSurrogate low = true) (rest : List Char) :
    readEscape true ('u' :: a :: b :: c :: d :: '\\' :: 'u' :: e :: f :: g :: i :: rest) =
      .ok (joinSurrogates high low, rest) := by
  have notLow : isLowSurrogate high = false := by
    simp only [isHighSurrogate, Bool.and_eq_true, decide_eq_true_eq] at isHigh
    simp only [isLowSurrogate, Bool.and_eq_false_iff, decide_eq_false_iff_not]
    omega
  rw [readEscape, readUnit_of_codeUnit first]
  simp only [notLow, isHigh, Bool.and_false, Bool.and_true, Bool.false_eq_true, if_false, if_true]
  rw [readLowSurrogate, readUnit_of_codeUnit second]
  simp only [isLow, if_true]

theorem joinSurrogates_eq {c : Char} {high low : Nat}
    (joined : c.toNat = 0x10000 + (high - 0xD800) * 0x400 + (low - 0xDC00)) :
    joinSurrogates high low = c := by
  rw [joinSurrogates, ← joined, Char.ofNat_toNat]

theorem mapValue_mapValue {α β γ : Type} (f : α → β) (g : β → γ) (reading : Reading α) :
    (reading.mapValue f).mapValue g = reading.mapValue (g ∘ f) := by
  cases reading <;> rfl

/-- A character is read from each of its spellings. Where it is not needed, the two halves of a pair
are taken one by one. -/
theorem SpellsChar.read {c : Char} {spelled : List Char} (spells : SpellsChar c spelled)
    (needed : Bool) : ∃ letters, (needed = true → letters = [c]) ∧ ∀ rest,
      readText needed (spelled ++ rest) = (readText needed rest).mapValue (letters ++ ·) := by
  cases spells with
  | plain noQuote noSlash visible =>
    exact ⟨[c], fun _ => rfl, fun rest => readText_of_plain noQuote noSlash visible rest⟩
  | short known =>
    exact ⟨[c], fun _ => rfl, fun rest => readText_of_escape (readEscape_short known rest)⟩
  | unit code =>
    refine ⟨[c], fun _ => rfl, fun rest => readText_of_escape ?_⟩
    have read := readEscape_unit needed code (fun _ => not_surrogate c) rest
    rwa [Char.ofNat_toNat] at read
  | @pair _ _ _ _ f g i j high low first second isHigh isLow joined =>
    cases needed with
    | true =>
      refine ⟨[c], fun _ => rfl, fun rest => readText_of_escape ?_⟩
      rw [← joinSurrogates_eq joined]
      exact readEscape_pair first second isHigh isLow rest
    | false =>
      refine ⟨[Char.ofNat high, Char.ofNat low], fun need => absurd need Bool.false_ne_true,
        fun rest => ?_⟩
      have halves {a b d e : Char} {n : Nat} (code : codeUnit? a b d e = some n) (more : List Char) :=
        readEscape_unit false code (fun need => absurd need Bool.false_ne_true) more
      calc
        _ = (readText false ('\\' :: 'u' :: f :: g :: i :: j :: rest)).mapValue
              (Char.ofNat high :: ·) := readText_of_escape (halves first _)
        _ = ((readText false rest).mapValue (Char.ofNat low :: ·)).mapValue (Char.ofNat high :: ·) :=
          congrArg _ (readText_of_escape (halves second rest))
        _ = (readText false rest).mapValue ([Char.ofNat high, Char.ofNat low] ++ ·) :=
          mapValue_mapValue _ _ _

theorem SpellsChars.read {text inner : List Char} (spells : SpellsChars text inner) (needed : Bool) :
    ∃ letters, (needed = true → letters = text) ∧ ∀ rest,
      readText needed (inner ++ '"' :: rest) = .ok (letters, rest) := by
  induction spells with
  | nil => exact ⟨[], fun _ => rfl, fun rest => by rw [List.nil_append, readText]⟩
  | cons head tail ih =>
    obtain ⟨first, isHead, reads⟩ := head.read needed
    obtain ⟨letters, isTail, more⟩ := ih
    refine ⟨first ++ letters, fun need => by rw [isHead need, isTail need]; rfl, fun rest => ?_⟩
    rw [List.append_assoc, reads, more]
    rfl

theorem readText_spelled {text inner : List Char} (spells : SpellsChars text inner)
    (rest : List Char) : readText true (inner ++ '"' :: rest) = .ok (text, rest) := by
  obtain ⟨letters, same, read⟩ := spells.read true
  rw [read, same rfl]

end DiagnosticSieve.Json
