/-!
Pieces of texts: blanks as Unicode has them, lines, and words that a text starts with. A line feed ends
a line, together with one carriage return before it; what follows the last line feed is a line too,
unless it is empty.
-/

namespace DiagnosticSieve.Text

/-- Unicode White_Space, all 25 code points of it. -/
def isBlank (c : Char) : Bool :=
  let n := c.toNat
  (9 ≤ n && n ≤ 13) || n == 0x20 || n == 0x85 || n == 0xA0 || n == 0x1680 ||
    (0x2000 ≤ n && n ≤ 0x200A) || n == 0x2028 || n == 0x2029 || n == 0x202F || n == 0x205F ||
    n == 0x3000

def trim (text : List Char) : List Char :=
  ((text.dropWhile isBlank).reverse.dropWhile isBlank).reverse

def allBlank (text : List Char) : Bool := text.all isBlank

theorem dropWhile_isBlank_eq_nil_iff (text : List Char) :
    text.dropWhile isBlank = [] ↔ allBlank text = true := by
  induction text with
  | nil => simp [allBlank]
  | cons c rest ih =>
    by_cases blank : isBlank c = true
    · rw [List.dropWhile_cons_of_pos blank, ih]
      simp [blank, allBlank]
    · simp [blank, allBlank]

theorem trim_eq_nil_iff (text : List Char) : trim text = [] ↔ allBlank text = true := by
  rw [trim, List.reverse_eq_nil_iff, dropWhile_isBlank_eq_nil_iff]
  constructor
  · intro h
    rw [← dropWhile_isBlank_eq_nil_iff]
    apply Classical.byContradiction
    intro kept
    have first := List.head_dropWhile_not isBlank kept
    have blank := List.all_eq_true.mp h _ (List.mem_reverse.mpr (List.head_mem kept))
    simp [blank] at first
  · intro h
    simp [(dropWhile_isBlank_eq_nil_iff text).mpr h, allBlank]

def lines : List Char → List (List Char)
  | [] => []
  | '\n' :: rest => [] :: lines rest
  | '\r' :: '\n' :: rest => [] :: lines rest
  | c :: rest =>
    match lines rest with
    | [] => [[c]]
    | line :: more => (c :: line) :: more

def stringLines (text : String) : List String := (lines text.toList).map String.ofList

def joinLines (texts : List String) : String := String.intercalate "\n" texts

example : stringLines "a\r\n\nb\rc\r" = ["a", "", "b\rc\r"] := by decide
example : stringLines "a\n" = ["a"] := by decide

def after? : List Char → List Char → Option (List Char)
  | [], text => some text
  | _ :: _, [] => none
  | w :: word, c :: text => if w = c then after? word text else none

theorem after?_eq_some_iff (word text rest : List Char) :
    after? word text = some rest ↔ text = word ++ rest := by
  induction word generalizing text with
  | nil => simp [after?]
  | cons w word ih =>
    cases text with
    | nil => simp [after?]
    | cons c text =>
      by_cases same : w = c
      · simp [after?, same, ih]
      · simp [after?, same, Ne.symm same]

end DiagnosticSieve.Text
