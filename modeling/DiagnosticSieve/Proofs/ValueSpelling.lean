import DiagnosticSieve.Json.Numeral
import DiagnosticSieve.Library.Printer
import DiagnosticSieve.Proofs.TextSpelling
import DiagnosticSieve.Text.Digit

namespace DiagnosticSieve.Json

open Text (decimalValue decimalValue_toDigits)

def Blanks (text : List Char) : Prop := ∀ c ∈ text, isBlank c = true

theorem blanks_nil : Blanks [] := fun _ member => absurd member List.not_mem_nil

theorem skipBlanks_append {before : List Char} (blank : Blanks before) (text : List Char) :
    skipBlanks (before ++ text) = skipBlanks text := List.dropWhile_append_of_pos blank

def continued (parts : List (List Char)) : List Char := parts.flatMap fun part => ',' :: part

theorem continued_cons (part : List Char) (parts : List (List Char)) :
    continued (part :: parts) = ',' :: (part ++ continued parts) := rfl

theorem skipBlanks_continued {after : List Char} (blank : Blanks after) (part : List Char)
    (parts : List (List Char)) (rest : List Char) :
    skipBlanks (after ++ (continued (part :: parts) ++ rest)) =
      ',' :: (part ++ (continued parts ++ rest)) := by
  rw [skipBlanks_append blank, continued_cons, List.cons_append, skipBlanks_cons _ _ rfl,
    List.append_assoc]

theorem separate_cons (part : List Char) (parts : List (List Char)) :
    separate (part :: parts) = part ++ continued parts := by
  induction parts generalizing part with
  | nil => simp [separate, continued]
  | cons next parts ih => simp [separate, ih, continued]

/-! ### Numbers -/

structure IsDigits (digits : List Char) : Prop where
  nonempty : digits ≠ []
  digit : ∀ c ∈ digits, c.isDigit = true

structure IsWhole (digits : List Char) : Prop extends IsDigits digits where
  alone : ∀ more, digits = '0' :: more → more = []

inductive SpellsFraction : List Char → List Char → Prop
  | absent : SpellsFraction [] []
  | present {digits : List Char} (run : IsDigits digits) : SpellsFraction digits ('.' :: digits)

inductive SpellsSign : Bool → List Char → Prop
  | unsigned : SpellsSign false []
  | plus : SpellsSign false ['+']
  | minus : SpellsSign true ['-']

inductive SpellsExponent : Option (Bool × List Char) → List Char → Prop
  | absent : SpellsExponent none []
  | present {letter : Char} {negative : Bool} {sign digits : List Char}
      (marks : letter = 'e' ∨ letter = 'E') (signed : SpellsSign negative sign)
      (run : IsDigits digits) : SpellsExponent (some (negative, digits)) (letter :: (sign ++ digits))

inductive SpellsNumeral : Numeral → List Char → Prop
  | parts {n : Numeral} {fraction exponent : List Char} (whole : IsWhole n.whole)
      (behindPoint : SpellsFraction n.fraction fraction)
      (power : SpellsExponent n.exponent exponent) :
      SpellsNumeral n (n.whole ++ (fraction ++ exponent))

namespace Numeral

def power (n : Numeral) : Int :=
  match n.exponent with
  | none => 0
  | some (negative, digits) => if negative then -decimalValue digits else decimalValue digits

/-- What a numeral denotes, as a multiple of a power of ten. -/
def decimal (n : Numeral) : Decimal :=
  ⟨decimalValue (n.whole ++ n.fraction), n.power - n.fraction.length⟩

end Numeral

/-! ### Values -/

structure Item where
  value : Value
  before : List Char
  text : List Char
  after : List Char

def Item.padded (i : Item) : List Char := i.before ++ (i.text ++ i.after)

structure Item.Framed (i : Item) : Prop where
  before : Blanks i.before
  after : Blanks i.after

structure Entry where
  name : String
  before : List Char
  quoted : List Char
  after : List Char
  item : Item

def Entry.padded (e : Entry) : List Char :=
  e.before ++ (e.quoted ++ (e.after ++ ':' :: e.item.padded))

def Entry.member (e : Entry) : String × Value := (e.name, e.item.value)

structure Entry.Framed (e : Entry) : Prop where
  before : Blanks e.before
  quoted : SpellsText e.name.toList e.quoted
  after : Blanks e.after
  item : e.item.Framed

/-- The ways to write a value. -/
inductive Spells : Value → List Char → Prop
  | null : Spells .null "null".toList
  | boolean (value : Bool) : Spells (.boolean value) (toString value).toList
  | number {negative : Bool} {n : Numeral} {digits : List Char} (numeral : SpellsNumeral n digits) :
      Spells (.number negative n.decimal) ((if negative then ['-'] else []) ++ digits)
  | text {value : String} {quoted : List Char} (text : SpellsText value.toList quoted) :
      Spells (.text value) quoted
  | emptyList {filler : List Char} (blank : Blanks filler) :
      Spells (.list []) ('[' :: (filler ++ [']']))
  | list (item : Item) (items : List Item) (framed : ∀ i ∈ item :: items, i.Framed)
      (each : ∀ i ∈ item :: items, Spells i.value i.text) :
      Spells (.list ((item :: items).map Item.value))
        ('[' :: (separate ((item :: items).map Item.padded) ++ [']']))
  | emptyObject {filler : List Char} (blank : Blanks filler) :
      Spells (.object []) ('\x7b' :: (filler ++ ['\x7d']))
  | object (entry : Entry) (entries : List Entry) (framed : ∀ e ∈ entry :: entries, e.Framed)
      (each : ∀ e ∈ entry :: entries, Spells e.item.value e.item.text) :
      Spells (.object ((entry :: entries).map Entry.member))
        ('\x7b' :: (separate ((entry :: entries).map Entry.padded) ++ ['\x7d']))

def Value.openers : Value → List Char
  | null => ['n']
  | boolean value => [if value then 't' else 'f']
  | number .. => ['-', '0', '1', '2', '3', '4', '5', '6', '7', '8', '9']
  | text _ => ['"']
  | list _ => ['[']
  | object _ => ['\x7b']

theorem mem_of_isDigit {c : Char} (digit : c.isDigit = true) :
    c ∈ ['0', '1', '2', '3', '4', '5', '6', '7', '8', '9'] := by
  have all : ∀ n < 10, Char.ofNat (48 + n) ∈ ['0', '1', '2', '3', '4', '5', '6', '7', '8', '9'] := by
    decide
  simp only [Char.isDigit, Bool.and_eq_true, decide_eq_true_eq] at digit
  have low : 48 ≤ c.toNat := UInt32.le_iff_toNat_le.mp digit.1
  have high : c.toNat ≤ 57 := UInt32.le_iff_toNat_le.mp digit.2
  have member := all (c.toNat - 48) (by omega)
  rwa [Nat.add_sub_cancel' low, Char.ofNat_toNat] at member

theorem SpellsNumeral.starts {n : Numeral} {text : List Char} (spells : SpellsNumeral n text) :
    ∃ d more, text = d :: more ∧ d.isDigit = true := by
  obtain ⟨whole, _, _⟩ := spells
  obtain ⟨d, more, front⟩ := List.exists_cons_of_ne_nil whole.nonempty
  exact ⟨d, _, by rw [front]; rfl, whole.digit d (front ▸ List.mem_cons_self)⟩

theorem Spells.starts {v : Value} {text : List Char} (spells : Spells v text) :
    ∃ c more, text = c :: more ∧ c ∈ v.openers := by
  have first (c : Char) (more : List Char) (openers : List Char) :
      ∃ d others, c :: more = d :: others ∧ d ∈ c :: openers :=
    ⟨c, more, rfl, List.mem_cons_self⟩
  cases spells with
  | boolean value => cases value <;> exact first ..
  | @number negative n digits numeral =>
    cases negative with
    | true => exact first ..
    | false =>
      obtain ⟨d, more, front, digit⟩ := numeral.starts
      exact ⟨d, more, front, List.mem_cons_of_mem _ (mem_of_isDigit digit)⟩
  | text quoted =>
    cases quoted
    exact first ..
  | null | emptyList | list | emptyObject | object => exact first ..

theorem Value.openers_apart {v : Value} {c : Char} (opens : c ∈ v.openers) :
    isBlank c = false ∧ c ∉ [',', ']', '\x7d'] := by
  have all : ['n', 't', 'f', '"', '[', '\x7b', '-', '0', '1', '2', '3', '4', '5', '6', '7', '8',
      '9'].all (fun d => isBlank d = false ∧ d ∉ [',', ']', '\x7d']) = true := by decide
  apply of_decide_eq_true (List.all_eq_true.mp all c _)
  cases v with
  | number negative size => exact List.mem_append_right ['n', 't', 'f', '"', '[', '\x7b'] opens
  | boolean value =>
    rw [List.mem_singleton.mp opens]
    cases value <;> decide
  | null | text | list | object =>
    rw [List.mem_singleton.mp opens]
    decide

theorem Value.openers_ne_closing {v : Value} {c : Char} (opens : c ∈ v.openers) (b : Bracket) :
    c ≠ b.closing := by
  have apart := (Value.openers_apart opens).2
  rintro rfl
  cases b <;> exact apart (by decide)

def Value.isScalar : Value → Bool
  | list _ | object _ => false
  | _ => true

theorem Value.openers_of_scalar {v : Value} {c : Char} (opens : c ∈ v.openers)
    (scalar : v.isScalar = true) : c ≠ '[' ∧ c ≠ '\x7b' := by
  have free : '[' ∉ v.openers ∧ '\x7b' ∉ v.openers := by
    cases v with
    | list | object => cases scalar
    | boolean value => cases value <;> decide
    | null | number | text => simp [openers]
  constructor
  · rintro rfl
    exact free.1 opens
  · rintro rfl
    exact free.2 opens

theorem Item.skipBlanks_padded {i : Item} (framed : i.Framed) (spells : Spells i.value i.text)
    (rest : List Char) : skipBlanks (i.padded ++ rest) = i.text ++ (i.after ++ rest) := by
  obtain ⟨c, more, front, opens⟩ := spells.starts
  rw [padded, List.append_assoc, skipBlanks_append framed.before, List.append_assoc, front,
    List.cons_append, skipBlanks_cons _ _ (Value.openers_apart opens).1]

theorem Entry.skipBlanks_padded {e : Entry} (framed : e.Framed) :
    ∃ inner, SpellsChars e.name.toList inner ∧ ∀ rest, skipBlanks (e.padded ++ rest) =
      '"' :: (inner ++ '"' :: (e.after ++ ':' :: (e.item.padded ++ rest))) := by
  obtain ⟨before, quoted, _, _⟩ := framed
  cases spelled : e.quoted with
  | nil =>
    rw [spelled] at quoted
    cases quoted
  | cons c more =>
    rw [spelled] at quoted
    cases quoted with
    | quoted chars =>
      refine ⟨_, chars, fun rest => ?_⟩
      rw [padded, List.append_assoc, skipBlanks_append before, spelled]
      simp only [List.cons_append, List.append_assoc, List.nil_append]
      exact skipBlanks_cons _ _ rfl

/-! ### The compact text -/

theorem isDigits_toDigits (n : Nat) : IsDigits (Nat.toDigits 10 n) where
  nonempty := Nat.toDigits_ne_nil
  digit _ member := Nat.isDigit_of_mem_toDigits (by decide) (by decide) member

theorem isWhole_toDigits (n : Nat) : IsWhole (Nat.toDigits 10 n) where
  toIsDigits := isDigits_toDigits n
  alone := by
    induction n using Nat.strongRecOn with
    | ind n ih =>
      intro more leading
      by_cases small : n < 10
      · rw [Nat.toDigits_of_lt_base small] at leading
        exact (List.cons.inj leading).2.symm
      · rw [Nat.toDigits_of_base_le (by decide) (by omega)] at leading
        obtain ⟨c, others, front⟩ := List.exists_cons_of_ne_nil (isDigits_toDigits (n / 10)).nonempty
        rw [front, List.cons_append] at leading
        rw [(List.cons.inj leading).1] at front
        -- The digits in front would be a lone zero, but they denote more than that.
        rw [ih (n / 10) (by omega) others front] at front
        have value := decimalValue_toDigits (n / 10)
        rw [front] at value
        have zero : decimalValue ['0'] = 0 := rfl
        omega

theorem spells_writeNumber (negative : Bool) (size : Decimal) :
    Spells (.number negative size) (Value.writeNumber negative size) := by
  obtain ⟨digits, exponent⟩ := size
  have written (n : Nat) : (toString n).toList = Nat.toDigits 10 n := Nat.toList_repr
  -- The numeral that is written denotes the number.
  have of_numeral {power : Option (Bool × List Char)} {text : List Char}
      (spelled : SpellsExponent power text)
      (same : (⟨Nat.toDigits 10 digits, [], power⟩ : Numeral).power = exponent) :
      Spells (.number negative ⟨digits, exponent⟩)
        ((if negative then ['-'] else []) ++ (Nat.toDigits 10 digits ++ text)) := by
    have denoted : (⟨Nat.toDigits 10 digits, [], power⟩ : Numeral).decimal = ⟨digits, exponent⟩ := by
      simp [Numeral.decimal, same, decimalValue_toDigits]
    rw [← denoted]
    exact .number (@SpellsNumeral.parts ⟨_, [], power⟩ [] text (isWhole_toDigits digits) .absent spelled)
  rw [Value.writeNumber, List.append_assoc, written]
  by_cases flat : exponent = 0
  · rw [if_pos flat]
    exact of_numeral .absent flat.symm
  · rw [if_neg flat]
    cases exponent with
    | ofNat n =>
      have power : (toString (Int.ofNat n)).toList = [] ++ Nat.toDigits 10 n := written n
      rw [power]
      refine of_numeral (.present (.inl rfl) .unsigned (isDigits_toDigits n)) ?_
      simp [Numeral.power, decimalValue_toDigits]
    | negSucc n =>
      have power : (toString (Int.negSucc n)).toList = ['-'] ++ Nat.toDigits 10 (n + 1) := by
        rw [← written]
        exact String.toList_append
      rw [power]
      refine of_numeral (.present (.inl rfl) .minus (isDigits_toDigits (n + 1))) ?_
      simp [Numeral.power, decimalValue_toDigits, Int.negSucc_eq]

def Item.compact (v : Value) : Item := ⟨v, [], v.write, []⟩

def Entry.compact (m : String × Value) : Entry := ⟨m.1, [], writeText m.1.toList, [], .compact m.2⟩

theorem Item.padded_compact (v : Value) : (Item.compact v).padded = v.write := by
  simp [padded, compact]

theorem Item.framed_compact (v : Value) : (Item.compact v).Framed := ⟨blanks_nil, blanks_nil⟩

theorem Entry.framed_compact (m : String × Value) : (Entry.compact m).Framed :=
  ⟨blanks_nil, spellsText_writeText m.1.toList, blanks_nil, Item.framed_compact m.2⟩

theorem writeItems_eq (items : List Value) :
    Value.writeItems items = (items.map Item.compact).map Item.padded := by
  induction items with
  | nil => rfl
  | cons v items ih => simp [Value.writeItems, ih, Item.padded_compact]

theorem writeMembers_eq (members : List (String × Value)) :
    Value.writeMembers members = (members.map Entry.compact).map Entry.padded := by
  induction members with
  | nil => rfl
  | cons m members ih =>
    simp [Value.writeMembers, ih, Entry.padded, Entry.compact, Item.padded_compact]

theorem spells_write_list {items : List Value} (each : ∀ v ∈ items, Spells v v.write) :
    Spells (.list items) (Value.list items).write := by
  rw [Value.write, writeItems_eq, List.cons_append]
  cases items with
  | nil => exact .emptyList blanks_nil
  | cons v items =>
    have framed : ∀ i ∈ (v :: items).map Item.compact, i.Framed :=
      List.forall_mem_map.mpr fun v _ => Item.framed_compact v
    have values : ((v :: items).map Item.compact).map Item.value = v :: items := by
      simp [Function.comp_def, Item.compact]
    have values_spelled : ∀ i ∈ (v :: items).map Item.compact, Spells i.value i.text :=
      List.forall_mem_map.mpr each
    have spelled := Spells.list (.compact v) (items.map .compact) framed values_spelled
    rwa [← List.map_cons, values] at spelled

theorem spells_write_object {members : List (String × Value)}
    (each : ∀ m ∈ members, Spells m.2 m.2.write) :
    Spells (.object members) (Value.object members).write := by
  rw [Value.write, writeMembers_eq, List.cons_append]
  cases members with
  | nil => exact .emptyObject blanks_nil
  | cons m members =>
    have framed : ∀ e ∈ (m :: members).map Entry.compact, e.Framed :=
      List.forall_mem_map.mpr fun m _ => Entry.framed_compact m
    have same : ((m :: members).map Entry.compact).map Entry.member = m :: members := by
      simp [Function.comp_def, Entry.compact, Entry.member, Item.compact]
    have values_spelled : ∀ e ∈ (m :: members).map Entry.compact, Spells e.item.value e.item.text :=
      List.forall_mem_map.mpr each
    have spelled := Spells.object (.compact m) (members.map .compact) framed values_spelled
    rwa [← List.map_cons, same] at spelled

mutual

theorem spells_write : ∀ v : Value, Spells v v.write
  | .null => .null
  | .boolean value => .boolean value
  | .number negative size => spells_writeNumber negative size
  | .text value => .text (spellsText_writeText value.toList)
  | .list items => spells_write_list (spells_write_items items)
  | .object members => spells_write_object (spells_write_members members)

theorem spells_write_items : ∀ items : List Value, ∀ v ∈ items, Spells v v.write
  | v :: items => List.forall_mem_cons.mpr ⟨spells_write v, spells_write_items items⟩
  | [] => List.forall_mem_nil _

theorem spells_write_members : ∀ members : List (String × Value), ∀ m ∈ members, Spells m.2 m.2.write
  | (_, v) :: members => List.forall_mem_cons.mpr ⟨spells_write v, spells_write_members members⟩
  | [] => List.forall_mem_nil _

end

end DiagnosticSieve.Json
