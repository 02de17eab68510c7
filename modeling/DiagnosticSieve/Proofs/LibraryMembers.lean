import DiagnosticSieve.Library.Parser
import DiagnosticSieve.Proofs.SkippedValues
import DiagnosticSieve.Proofs.TypedValues

namespace DiagnosticSieve.Library

open Json

def Draft.put? (d : Draft) (v : Value) : Member → Option Draft
  | .label => v.text?.map fun value => { d with label := some value }
  | .modules => v.texts?.map fun value => { d with modules := some value }
  | .suppressions => v.texts?.map fun value => { d with suppressions := some value }
  | .legacy => v.boolean?.map fun value => { d with legacy := some value }

/-- A draft with what a member of an object adds to it: nothing, if its key is unknown. A member may
not be repeated. -/
def Draft.take? (d : Draft) (member : String × Value) : Option Draft :=
  match Member.ofKey? member.1 with
  | none => some d
  | some m => if d.has m then none else d.put? member.2 m

variable {d : Draft} {v : Value} {text input rest : List Char}

theorem readMember_spelled (m : Member) (spells : Spells v text)
    (start : skipBlanks input = text ++ rest) : Gives (d.readMember input m) (d.put? v m) rest := by
  cases m with
  | label => exact (readString_spelled spells start).mapValue _
  | modules => exact (readStrings_spelled spells start).mapValue _
  | suppressions => exact (readStrings_spelled spells start).mapValue _
  | legacy => exact (readBoolean_spelled spells start).mapValue _

theorem readValue_spelled {e : Json.Entry} (framed : e.Framed)
    (spells : Spells e.item.value e.item.text) (ends : Ends rest) :
    Gives (readValue d e.name.toList (e.after ++ ':' :: (e.item.padded ++ rest))) (d.take? e.member)
      (e.item.after ++ rest) := by
  have start := e.item.skipBlanks_padded framed.item spells rest
  rw [readValue, String.ofList_toList, Draft.take?, Json.Entry.member]
  dsimp only
  cases kind : Member.ofKey? e.name with
  | none =>
    simp only [expectColon_append framed.after,
      skipValue_spelled spells (ends_append framed.item.after ends) start]
    rfl
  | some m =>
    dsimp only
    cases repeated : d.has m with
    | true => exact ⟨_, rfl⟩
    | false =>
      simp only [Bool.false_eq_true, if_false, expectColon_append framed.after]
      exact readMember_spelled m spells start

theorem readMembers_of_close {first : Bool}
    (next : Bracket.object.next first input = .ok (.close rest)) :
    Gives (readMembers d first input) d.library? rest := by
  rw [readMembers]
  split
  case h_1 e refused => simp [next] at refused
  case h_2 closed =>
    rw [next] at closed
    cases closed
    cases found : d.library? with
    | some lib => rfl
    | none => exact ⟨_, rfl⟩
  case h_3 item found => simp [next] at found
  case h_4 item other found => simp [next] at found

theorem readMembers_of_item {first : Bool} {item : List Char}
    (next : Bracket.object.next first input = .ok (.item ('"' :: item))) :
    readMembers d first input =
      match readText true item with
      | .error e => .error e
      | .ok (key, rest) =>
        match readValue d key rest with
        | .error e => .error e
        | .ok (d, rest) => readMembers d false rest := by
  rw [readMembers]
  split
  case h_1 e refused => simp [next] at refused
  case h_2 last closed => simp [next] at closed
  case h_3 item found =>
    rw [next] at found
    cases found
    split
    case h_1 e refused => rw [refused]
    case h_2 read =>
      rw [read]
      dsimp only
      split
      case h_1 e refused => rw [refused]
      case h_2 read => rw [read]
  case h_4 item other found =>
    rw [next] at found
    cases found
    exact absurd rfl (other _)

def behindEntry (entries : List Json.Entry) (rest : List Char) : List Char :=
  continued (entries.map Json.Entry.padded) ++ '\x7d' :: rest

/-- The way into an object before some of its members. -/
def BeforeEntries (entries : List Json.Entry) (rest : List Char) (place : Next) : Prop :=
  match entries with
  | [] => place = .close rest
  | e :: entries => ∃ inner, SpellsChars e.name.toList inner ∧ place =
      .item ('"' :: (inner ++ '"' :: (e.after ++ ':' :: (e.item.padded ++ behindEntry entries rest))))

theorem next_first_entry {e : Json.Entry} (framed : e.Framed) (entries : List Json.Entry)
    (rest : List Char) :
    ∃ place, Bracket.object.next true (e.padded ++ behindEntry entries rest) = .ok place ∧
      BeforeEntries (e :: entries) rest place := by
  obtain ⟨inner, chars, front⟩ := e.skipBlanks_padded framed
  exact ⟨_, Bracket.next_first (front _) (by decide), inner, chars, rfl⟩

theorem next_behindEntry {after : List Char} (blank : Blanks after) {entries : List Json.Entry}
    (framed : ∀ e ∈ entries, e.Framed) (rest : List Char) :
    ∃ place, Bracket.object.next false (after ++ behindEntry entries rest) = .ok place ∧
      BeforeEntries entries rest place := by
  cases entries with
  | nil =>
    have closed := (skipBlanks_append blank _).trans (Bracket.object.skipBlanks_closing rest)
    exact ⟨_, Bracket.next_close closed, rfl⟩
  | cons e entries =>
    have start : skipBlanks (after ++ behindEntry (e :: entries) rest) =
        ',' :: (e.padded ++ behindEntry entries rest) := skipBlanks_continued blank ..
    obtain ⟨inner, chars, front⟩ := e.skipBlanks_padded (framed e List.mem_cons_self)
    exact ⟨_, Bracket.next_comma start (front _) (by decide), inner, chars, rfl⟩

theorem readMembers_entries {entries : List Json.Entry} (framed : ∀ e ∈ entries, e.Framed)
    (each : ∀ e ∈ entries, Spells e.item.value e.item.text) {first : Bool} {place : Next}
    (next : Bracket.object.next first input = .ok place)
    (before : BeforeEntries entries rest place) :
    Gives (readMembers d first input)
      (((entries.map Json.Entry.member).foldlM Draft.take? d).bind Draft.library?) rest := by
  induction entries generalizing d first input place with
  | nil =>
    obtain rfl : place = .close rest := before
    exact readMembers_of_close next
  | cons e entries ih =>
    obtain ⟨own, others⟩ := List.forall_mem_cons.mp framed
    obtain ⟨spells, rests⟩ := List.forall_mem_cons.mp each
    obtain ⟨inner, chars, rfl⟩ := before
    have ends : Ends (behindEntry entries rest) := Bracket.object.ends_continued _ rest
    have value := readValue_spelled (d := d) own spells ends
    rw [readMembers_of_item next, List.map_cons, List.foldlM_cons]
    simp only [readText_spelled chars]
    cases taken : d.take? e.member with
    | none =>
      rw [taken] at value
      obtain ⟨fault, refused⟩ := value
      exact ⟨fault, by rw [refused]⟩
    | some filled =>
      rw [taken] at value
      have read : readValue d e.name.toList _ = .ok (filled, _) := value
      obtain ⟨place, next, before⟩ := next_behindEntry own.item.after others rest
      rw [read]
      exact ih others rests next before

def ofElements? : List Value → Option Library
  | [] => none
  | label :: others =>
    label.text?.bind fun label =>
    (element? Value.texts? [] others).bind fun modules =>
    (element? Value.texts? [] others.tail).bind fun suppressions =>
    (element? Value.boolean? false others.tail.tail).bind fun legacy =>
      if others.tail.tail.tail = [] then some ⟨label, modules, suppressions, legacy⟩ else none

theorem readElements_items {i : Item} {items : List Item} (framed : ∀ j ∈ i :: items, j.Framed)
    (each : ∀ j ∈ i :: items, Spells j.value j.text) :
    Gives (readElements (i.padded ++ behindItem items rest))
      (ofElements? ((i :: items).map Item.value)) rest := by
  obtain ⟨own, others⟩ := List.forall_mem_cons.mp framed
  obtain ⟨spells, rests⟩ := List.forall_mem_cons.mp each
  have othersTail (j : Item) (member : j ∈ items.tail) := others j (List.mem_of_mem_tail member)
  have restsTail (j : Item) (member : j ∈ items.tail) := rests j (List.mem_of_mem_tail member)
  rw [List.map_cons, ofElements?, readElements, next_first_item own spells]
  apply (readString_spelled spells (skipBlanks_spelled spells _)).bind
  intro label
  apply (readElement_before [] readStrings_spelled others rests (.inside own.after)).bind
  intro modules place before
  rw [← List.map_tail]
  apply (readElement_before [] readStrings_spelled othersTail restsTail before).bind
  intro suppressions place before
  rw [← List.map_tail]
  apply (readElement_before false readBoolean_spelled
    (fun j member => othersTail j (List.mem_of_mem_tail member))
    (fun j member => restsTail j (List.mem_of_mem_tail member)) before).bind
  intro legacy place before
  rw [← List.map_tail]
  cases left : items.tail.tail.tail with
  | nil =>
    rw [left] at before
    simp only [closeList_before before]
    rfl
  | cons j more =>
    rw [left] at before
    obtain ⟨fault, refused⟩ := closeList_refuses before
    exact ⟨fault, by simp only [refused]; rfl⟩

/-- What the reader of libraries finds in a value. -/
def ofValue? : Value → Option Library
  | .object members => (members.foldlM Draft.take? {}).bind Draft.library?
  | .list elements => ofElements? elements
  | _ => none

theorem read_scalar (spells : Spells v text) (scalar : v.isScalar = true)
    (start : skipBlanks input = text ++ rest) : ∃ fault, read input = .error fault := by
  obtain ⟨c, more, front, opens⟩ := spells.starts
  obtain ⟨noList, noObject⟩ := Value.openers_of_scalar opens scalar
  rw [front, List.cons_append] at start
  rw [read, start]
  split
  · next ended => cases ended
  · next same =>
    cases same
    exact absurd rfl noList
  · next same =>
    cases same
    exact absurd rfl noObject
  · exact ⟨_, rfl⟩

theorem read_spelled (spells : Spells v text) (start : skipBlanks input = text ++ rest) :
    Gives (read input) (ofValue? v) rest := by
  have closing (b : Bracket) {filler : List Char} (blank : Blanks filler) :
      b.next true (filler ++ b.closing :: rest) = .ok (.close rest) :=
    Bracket.next_close ((skipBlanks_append blank _).trans (b.skipBlanks_closing rest))
  cases spells with
  | null => exact read_scalar .null rfl start
  | boolean value => exact read_scalar (.boolean value) rfl start
  | number numeral => exact read_scalar (.number numeral) rfl start
  | text quoted => exact read_scalar (.text quoted) rfl start
  | @emptyList filler blank =>
    have opened : skipBlanks input = '[' :: (filler ++ Bracket.list.closing :: rest) := by
      rw [start, List.cons_append, List.append_assoc]
      rfl
    rw [read]
    simp only [opened, readElements, closing .list blank]
    exact ⟨_, rfl⟩
  | list i items framed each =>
    rw [List.cons_append, List.append_assoc, List.map_cons, separate_cons, List.append_assoc] at start
    rw [read]
    simp only [start]
    exact readElements_items framed each
  | @emptyObject filler blank =>
    have opened : skipBlanks input = '\x7b' :: (filler ++ Bracket.object.closing :: rest) := by
      rw [start, List.cons_append, List.append_assoc]
      rfl
    rw [read]
    simp only [opened]
    exact readMembers_of_close (closing .object blank)
  | object e entries framed each =>
    obtain ⟨own, _⟩ := List.forall_mem_cons.mp framed
    obtain ⟨place, next, before⟩ := next_first_entry own entries rest
    rw [List.cons_append, List.append_assoc, List.map_cons, separate_cons, List.append_assoc] at start
    rw [read]
    simp only [start]
    exact readMembers_entries framed each next before

def Holds (text : List Char) (v : Value) : Prop :=
  ∃ i : Item, i.value = v ∧ i.Framed ∧ Spells v i.text ∧ text = i.padded

theorem holds_write (v : Value) : Holds v.write v :=
  ⟨.compact v, rfl, Item.framed_compact v, spells_write v, (Item.padded_compact v).symm⟩

theorem Holds.parse_eq_ok_iff (holds : Holds text v) (lib : Library) :
    parse text = .ok lib ↔ ofValue? v = some lib := by
  obtain ⟨i, rfl, framed, spells, rfl⟩ := holds
  have start : skipBlanks i.padded = i.text ++ i.after := by
    have padded := i.skipBlanks_padded framed spells []
    rwa [List.append_nil, List.append_nil] at padded
  have ended : skipBlanks i.after = [] := by
    have skipped := skipBlanks_append framed.after []
    rwa [List.append_nil] at skipped
  have gives := read_spelled spells start
  cases found : ofValue? i.value with
  | none =>
    rw [found] at gives
    obtain ⟨fault, refused⟩ := gives
    simp [parse, refused]
  | some whole =>
    rw [found] at gives
    have read : read i.padded = .ok (whole, i.after) := gives
    simp [parse, read, ended]

end DiagnosticSieve.Library
