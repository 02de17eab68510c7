import DiagnosticSieve.Json.Tuple
import DiagnosticSieve.Json.Typed
import DiagnosticSieve.Proofs.ValueSpelling

namespace DiagnosticSieve.Json

/-- A reading gives what an option has, up to the rest of the text, or a fault if it has nothing. -/
def Gives {α : Type} (reading : Reading α) (found : Option α) (rest : List Char) : Prop :=
  match found with
  | some a => reading = .ok (a, rest)
  | none => ∃ fault, reading = .error fault

theorem Gives.mapValue {α β : Type} {reading : Reading α} {found : Option α} {rest : List Char}
    (gives : Gives reading found rest) (f : α → β) :
    Gives (reading.mapValue f) (found.map f) rest := by
  cases found with
  | some a =>
    have read : reading = .ok (a, rest) := gives
    rw [read]
    rfl
  | none =>
    obtain ⟨fault, refused⟩ := gives
    exact ⟨fault, by rw [refused]; rfl⟩

theorem Gives.bind {α β : Type} {reading : Reading α} {found : Option α} {rest last : List Char}
    (gives : Gives reading found rest) {next : α × List Char → Reading β} {more : α → Option β}
    (continues : ∀ a, Gives (next (a, rest)) (more a) last) :
    Gives (reading.bind next) (found.bind more) last := by
  cases found with
  | some a =>
    have read : reading = .ok (a, rest) := gives
    rw [read]
    exact continues a
  | none =>
    obtain ⟨fault, refused⟩ := gives
    exact ⟨fault, by rw [refused]; rfl⟩

namespace Value

def text? : Value → Option String
  | text value => some value
  | _ => none

def boolean? : Value → Option Bool
  | boolean value => some value
  | _ => none

def texts? : Value → Option (List String)
  | list items => items.mapM text?
  | _ => none

variable {v : Value}

theorem text?_eq_some_iff (value : String) : v.text? = some value ↔ v = text value := by
  cases v <;> simp [text?]

theorem boolean?_eq_some_iff (value : Bool) : v.boolean? = some value ↔ v = boolean value := by
  cases v <;> simp [boolean?]

theorem mapM_text?_eq_some_iff (items : List Value) (values : List String) :
    items.mapM text? = some values ↔ items = values.map text := by
  induction items generalizing values with
  | nil => cases values <;> simp
  | cons v items ih =>
    cases values <;> simp [List.mapM_cons, Option.bind_eq_some_iff, text?_eq_some_iff, ih]

theorem texts?_eq_some_iff (values : List String) :
    v.texts? = some values ↔ v = list (values.map text) := by
  cases v <;> simp [texts?, mapM_text?_eq_some_iff]

theorem quote_not_mem_openers (other : v.text? = none) : '"' ∉ v.openers := by
  cases v with
  | text value => cases other
  | boolean value => cases value <;> decide
  | null | number | list | object => simp [openers]

theorem words_not_mem_openers (other : v.boolean? = none) : 't' ∉ v.openers ∧ 'f' ∉ v.openers := by
  cases v with
  | boolean value => cases other
  | null | number | text | list | object => simp [openers]

theorem bracket_not_mem_openers (other : ∀ items, v ≠ list items) : '[' ∉ v.openers := by
  cases v with
  | list items => exact absurd rfl (other items)
  | boolean value => cases value <;> decide
  | null | number | text | object => simp [openers]

end Value

variable {v : Value} {text input rest : List Char}

/-! ### Scalars -/

theorem readString_quoted {value : String} {quoted : List Char}
    (spells : SpellsText value.toList quoted) (start : skipBlanks input = quoted ++ rest) :
    readString input = .ok (value, rest) := by
  obtain ⟨chars⟩ := spells
  rw [List.cons_append, List.append_assoc, List.singleton_append] at start
  rw [readString]
  simp only [start, readText_spelled chars rest]
  exact congrArg (fun text => Except.ok (text, rest)) value.ofList_toList

theorem readString_spelled (spells : Spells v text) (start : skipBlanks input = text ++ rest) :
    Gives (readString input) v.text? rest := by
  cases found : v.text? with
  | some value =>
    cases spells with
    | text quoted =>
      cases found
      exact readString_quoted quoted start
    | _ => cases found
  | none =>
    obtain ⟨c, more, front, opens⟩ := spells.starts
    rw [front, List.cons_append] at start
    rw [readString, start]
    split
    · next ended => cases ended
    · next same =>
      cases same
      exact absurd opens (Value.quote_not_mem_openers found)
    · exact ⟨_, rfl⟩

theorem readBoolean_spelled (spells : Spells v text) (start : skipBlanks input = text ++ rest) :
    Gives (readBoolean input) v.boolean? rest := by
  cases found : v.boolean? with
  | some value =>
    cases spells with
    | boolean value =>
      cases found
      have word (letters : List Char) : expectWord letters (letters ++ rest) = .ok rest :=
        (expectWord_eq_ok_iff ..).mpr rfl
      cases value with
      | true =>
        have start : skipBlanks input = 't' :: ("rue".toList ++ rest) := start
        rw [readBoolean]
        simp only [start, word]
        rfl
      | false =>
        have start : skipBlanks input = 'f' :: ("alse".toList ++ rest) := start
        rw [readBoolean]
        simp only [start, word]
        rfl
    | _ => cases found
  | none =>
    obtain ⟨c, more, front, opens⟩ := spells.starts
    obtain ⟨noTrue, noFalse⟩ := Value.words_not_mem_openers found
    rw [front, List.cons_append] at start
    rw [readBoolean, start]
    split
    · next ended => cases ended
    · next same =>
      cases same
      exact absurd opens noTrue
    · next same =>
      cases same
      exact absurd opens noFalse
    · exact ⟨_, rfl⟩

/-! ### Lists -/

namespace Bracket

variable {b : Bracket} {first : Bool} {more last : List Char} {c d : Char}

theorem next_close (start : skipBlanks text = b.closing :: rest) :
    b.next first text = .ok (.close rest) := by
  rw [next, start]
  exact if_pos rfl

theorem next_first (start : skipBlanks text = c :: more) (filled : c ≠ b.closing) :
    b.next true text = .ok (.item (c :: more)) := by
  rw [next, start]
  simp [filled]

theorem next_comma (start : skipBlanks text = ',' :: more) (inside : skipBlanks more = d :: last)
    (filled : d ≠ b.closing) : b.next false text = .ok (.item (d :: last)) := by
  have free : ',' ≠ b.closing := by cases b <;> decide
  rw [next, start]
  simp [free, inside, filled]

end Bracket

theorem readStringsFrom_of_close {first : Bool}
    (next : Bracket.list.next first input = .ok (.close rest)) :
    readStringsFrom first input = .ok ([], rest) := by
  rw [readStringsFrom]
  split
  case h_1 e refused => simp [next] at refused
  case h_2 closed =>
    rw [next] at closed
    cases closed
    rfl
  case h_3 item found => simp [next] at found

theorem readStringsFrom_of_item {first : Bool} {item : List Char}
    (next : Bracket.list.next first input = .ok (.item item)) :
    readStringsFrom first input =
      match readString item with
      | .error e => .error e
      | .ok (value, rest) => (readStringsFrom false rest).mapValue (value :: ·) := by
  rw [readStringsFrom]
  split
  case h_1 e refused => simp [next] at refused
  case h_2 closed => simp [next] at closed
  case h_3 found =>
    rw [next] at found
    cases found
    split
    case h_1 e refused => rw [refused]
    case h_2 read => rw [read]

def behindItem (items : List Item) (rest : List Char) : List Char :=
  continued (items.map Item.padded) ++ ']' :: rest

def Next.ofItems (items : List Item) (rest : List Char) : Next :=
  match items with
  | [] => .close rest
  | i :: items => .item (i.text ++ (i.after ++ behindItem items rest))

section Items

variable {i : Item} {items : List Item}

theorem next_first_item (framed : i.Framed) (spells : Spells i.value i.text) (behind : List Char) :
    Bracket.list.next true (i.padded ++ behind) = .ok (.item (i.text ++ (i.after ++ behind))) := by
  obtain ⟨c, more, front, opens⟩ := spells.starts
  have start := i.skipBlanks_padded framed spells behind
  rw [front] at start ⊢
  exact Bracket.next_first start (Value.openers_ne_closing opens .list)

theorem next_behindItem {after : List Char} (blank : Blanks after)
    (framed : ∀ i ∈ items, i.Framed) (each : ∀ i ∈ items, Spells i.value i.text) (rest : List Char) :
    Bracket.list.next false (after ++ behindItem items rest) = .ok (.ofItems items rest) := by
  cases items with
  | nil => exact Bracket.next_close ((skipBlanks_append blank _).trans (skipBlanks_cons _ _ rfl))
  | cons i items =>
    have spells := each i List.mem_cons_self
    obtain ⟨c, more, front, opens⟩ := spells.starts
    have start : skipBlanks (after ++ behindItem (i :: items) rest) =
        ',' :: (i.padded ++ behindItem items rest) := skipBlanks_continued blank ..
    have inside := i.skipBlanks_padded (framed i List.mem_cons_self) spells (behindItem items rest)
    rw [Next.ofItems, front]
    rw [front] at inside
    exact Bracket.next_comma start inside (Value.openers_ne_closing opens .list)

theorem skipBlanks_spelled (spells : Spells v text) (rest : List Char) :
    skipBlanks (text ++ rest) = text ++ rest := by
  obtain ⟨c, more, rfl, opens⟩ := spells.starts
  exact skipBlanks_cons _ _ (Value.openers_apart opens).1

theorem readStringsFrom_items (framed : ∀ i ∈ items, i.Framed)
    (each : ∀ i ∈ items, Spells i.value i.text) {first : Bool}
    (next : Bracket.list.next first input = .ok (.ofItems items rest)) :
    Gives (readStringsFrom first input) ((items.map Item.value).mapM Value.text?) rest := by
  induction items generalizing first input with
  | nil => exact readStringsFrom_of_close next
  | cons i items ih =>
    obtain ⟨own, others⟩ := List.forall_mem_cons.mp framed
    obtain ⟨spells, rests⟩ := List.forall_mem_cons.mp each
    have string := readString_spelled spells
      (skipBlanks_spelled spells (i.after ++ behindItem items rest))
    have more := ih others rests (next_behindItem own.after others rests rest)
    rw [List.map_cons, List.mapM_cons, readStringsFrom_of_item next]
    cases found : i.value.text? with
    | none =>
      rw [found] at string
      obtain ⟨fault, refused⟩ := string
      exact ⟨fault, by rw [refused]⟩
    | some value =>
      rw [found] at string
      have read : readString _ = .ok (value, _) := string
      have gives := more.mapValue (value :: ·)
      rw [Option.map_eq_bind] at gives
      rw [read]
      exact gives

end Items

theorem readStrings_spelled (spells : Spells v text) (start : skipBlanks input = text ++ rest) :
    Gives (readStrings input) v.texts? rest := by
  have opened {body : List Char} (start : skipBlanks input = '[' :: body) :
      readStrings input = readStringsFrom true body := by
    rw [readStrings]
    simp only [start]
  by_cases list : ∃ items, v = .list items
  · obtain ⟨items, rfl⟩ := list
    cases spells with
    | emptyList blank =>
      rw [List.cons_append, List.append_assoc] at start
      rw [opened start]
      exact readStringsFrom_of_close
        (Bracket.next_close ((skipBlanks_append blank _).trans (skipBlanks_cons _ _ rfl)))
    | list i items framed each =>
      rw [List.cons_append, List.append_assoc, List.map_cons, separate_cons, List.append_assoc] at start
      rw [opened start]
      obtain ⟨own, _⟩ := List.forall_mem_cons.mp framed
      obtain ⟨first, _⟩ := List.forall_mem_cons.mp each
      exact readStringsFrom_items framed each (next_first_item own first _)
  · have other (items : List Value) : v ≠ .list items := fun same => list ⟨items, same⟩
    have found : v.texts? = none := by
      cases v with
      | list items => exact absurd rfl (other items)
      | _ => rfl
    obtain ⟨c, more, front, opens⟩ := spells.starts
    rw [front, List.cons_append] at start
    rw [found, readStrings, start]
    split
    · next ended => cases ended
    · next same =>
      cases same
      exact absurd opens (Value.bracket_not_mem_openers other)
    · exact ⟨_, rfl⟩

/-! ### Tuples -/

inductive Cursor.Before (items : List Item) (rest : List Char) : Cursor → Prop
  | inside {after : List Char} (blank : Blanks after) :
      Before items rest (.inside (after ++ behindItem items rest))
  | behind (none : items = []) : Before items rest (.behind rest)

def element? {α : Type} (ofValue? : Value → Option α) (absent : α) : List Value → Option α
  | [] => some absent
  | v :: _ => ofValue? v

/-- Reading an element gives what an option has, and stands before the items that follow, or gives a
fault if the option has nothing. -/
def GivesElement {α : Type} (reading : Except Fault (α × Cursor)) (found : Option α)
    (items : List Item) (rest : List Char) : Prop :=
  match found with
  | some a => ∃ place, reading = .ok (a, place) ∧ place.Before items rest
  | none => ∃ fault, reading = .error fault

theorem GivesElement.bind {α β : Type} {reading : Except Fault (α × Cursor)} {found : Option α}
    {items : List Item} {rest : List Char} (gives : GivesElement reading found items rest)
    {next : α × Cursor → Reading β} {more : α → Option β}
    (continues : ∀ a place, place.Before items rest → Gives (next (a, place)) (more a) rest) :
    Gives (reading.bind next) (found.bind more) rest := by
  cases found with
  | some a =>
    obtain ⟨place, read, before⟩ := gives
    rw [read]
    exact continues a place before
  | none =>
    obtain ⟨fault, refused⟩ := gives
    exact ⟨fault, by rw [refused]; rfl⟩

variable {items : List Item}

theorem readElement_before {α : Type} {read : List Char → Reading α} {ofValue? : Value → Option α}
    (absent : α) (reads : ∀ {v : Value} {text input rest : List Char}, Spells v text →
      skipBlanks input = text ++ rest → Gives (read input) (ofValue? v) rest)
    (framed : ∀ i ∈ items, i.Framed) (each : ∀ i ∈ items, Spells i.value i.text) {place : Cursor}
    (before : place.Before items rest) :
    GivesElement (readElement read absent place)
      (element? ofValue? absent (items.map Item.value)) items.tail rest := by
  cases before with
  | behind none =>
    rw [none]
    exact ⟨_, rfl, .behind rfl⟩
  | inside blank =>
    have next := next_behindItem blank framed each rest
    cases items with
    | nil =>
      refine ⟨.behind rest, ?_, .behind rfl⟩
      rw [readElement, next]
      rfl
    | cons i items =>
      have gives := reads (each i List.mem_cons_self)
        (skipBlanks_spelled (each i List.mem_cons_self) (i.after ++ behindItem items rest))
      rw [readElement, next]
      simp only [Next.ofItems, List.map_cons, element?]
      cases found : ofValue? i.value with
      | none =>
        rw [found] at gives
        obtain ⟨fault, refused⟩ := gives
        exact ⟨fault, by rw [refused]; rfl⟩
      | some value =>
        rw [found] at gives
        have done : read _ = .ok (value, _) := gives
        exact ⟨_, by rw [done]; rfl, .inside (framed i List.mem_cons_self).after⟩

theorem closeList_before {place : Cursor} (before : place.Before [] rest) :
    closeList place = .ok rest := by
  cases before with
  | behind => rfl
  | inside blank =>
    rw [closeList, skipBlanks_append blank, behindItem]
    rfl

theorem closeList_refuses {i : Item} {place : Cursor} (before : place.Before (i :: items) rest) :
    ∃ fault, closeList place = .error fault := by
  cases before with
  | behind none => cases none
  | @inside after blank =>
    have start : skipBlanks (after ++ behindItem (i :: items) rest) =
        ',' :: (i.padded ++ behindItem items rest) := skipBlanks_continued blank ..
    rw [closeList]
    simp only [start]
    split <;> exact ⟨_, rfl⟩

end DiagnosticSieve.Json
