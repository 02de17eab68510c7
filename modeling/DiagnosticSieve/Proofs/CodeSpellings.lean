import DiagnosticSieve.SuppressionCode

namespace DiagnosticSieve

namespace Text

theorem dropWhile_isBlank_eq_self {text : List Char} (clear : ∀ c ∈ text, isBlank c = false) :
    text.dropWhile isBlank = text := by
  cases text with
  | nil => rfl
  | cons c rest => exact List.dropWhile_cons_of_neg (by simp [clear c List.mem_cons_self])

theorem trim_eq_self {text : List Char} (clear : ∀ c ∈ text, isBlank c = false) :
    trim text = text := by
  have back : ∀ c ∈ text.reverse, isBlank c = false := fun c member =>
    clear c (List.mem_reverse.mp member)
  rw [trim, dropWhile_isBlank_eq_self clear, dropWhile_isBlank_eq_self back, List.reverse_reverse]

theorem holds_toList_ofList (p : List Char → Bool) {text : List Char} (holds : p text = true) :
    p (String.ofList text).toList = true := by
  rwa [String.toList_ofList]

theorem all_toList_ofList {p : Char → Bool} {text : List Char} (all : text.all p = true) :
    (String.ofList text).toList.all p = true :=
  holds_toList_ofList (·.all p) all

def isKeyCharacter (c : Char) : Bool := !isBlank c && c.toUpper == c

end Text

open Text

theorem find?_named {α β : Type} [DecidableEq β] {items : List α} {name : α → β}
    (distinct : ∀ x y, name x = name y → x = y) (wanted : β) (x : α) (member : x ∈ items) :
    (items.find? fun y => name y = wanted) = some x ↔ name x = wanted := by
  constructor
  · intro found
    simpa using List.find?_some found
  · intro same
    cases found : items.find? fun y => name y = wanted with
    | none => exact absurd (List.find?_eq_none.mp found x member) (by simpa using same)
    | some y =>
      have named : name y = wanted := by simpa using List.find?_some found
      rw [distinct y x (named.trans same.symm)]

namespace Group

theorem name_inj {g h : Group} (same : g.name = h.name) : g = h := by
  have distinct : ∀ g ∈ all, ∀ h ∈ all, g.name = h.name → g = h := by decide +kernel
  exact distinct g (mem_all g) h (mem_all h) same

theorem trim_name (g : Group) : trim g.name.toList = g.name.toList := by
  have clear : g.name.toList.all (fun c => !isBlank c) = true := by
    cases g <;> exact all_toList_ofList rfl
  apply trim_eq_self
  intro c member
  simpa using List.all_eq_true.mp clear c member

theorem ofName?_name (g : Group) : ofName? g.name = some g := by
  rw [ofName?, trim_name, String.ofList_toList]
  exact (find?_named (fun _ _ => name_inj) g.name g (mem_all g)).mpr rfl

end Group

namespace Kind

theorem isKeyCharacter_of_mem_key (k : Kind) : ∀ c ∈ k.key.toList, isKeyCharacter c = true := by
  have front : "JSC_".toList.all isKeyCharacter = true := all_toList_ofList rfl
  have bare : k.bareKey.toList.all isKeyCharacter = true := by
    cases k <;> exact all_toList_ofList rfl
  rw [key, String.toList_append, ← List.all_eq_true, List.all_append, front, bare]
  rfl

theorem trim_key (k : Kind) : trim k.key.toList = k.key.toList := by
  apply trim_eq_self
  intro c member
  have plain := k.isKeyCharacter_of_mem_key c member
  simp only [isKeyCharacter, Bool.and_eq_true, Bool.not_eq_true'] at plain
  exact plain.1

theorem map_toUpper_key (k : Kind) : k.key.toList.map Char.toUpper = k.key.toList := by
  have each : ∀ c ∈ k.key.toList, c.toUpper = c := by
    intro c member
    have plain := k.isKeyCharacter_of_mem_key c member
    simp only [isKeyCharacter, Bool.and_eq_true, beq_iff_eq] at plain
    exact plain.2
  rw [List.map_congr_left each, List.map_id']

theorem bareSpelling_key (k : Kind) : bareSpelling k.key.toList = k.bareKey.toList := by
  rw [bareSpelling, trim_key, map_toUpper_key, key, String.toList_append]
  rfl

theorem ofKey?_key (k : Kind) : ofKey? k.key = some k := by
  rw [ofKey?, bareSpelling_key, String.ofList_toList]
  exact (find?_named (fun _ _ => bareKey_inj) k.bareKey k (mem_all k)).mpr rfl

theorem key_ne_name (k : Kind) (g : Group) : k.key ≠ g.name := by
  intro same
  have first : g.name.toList.head? ≠ some 'J' := by cases g <;> simp [Group.name]
  rw [← same, key, String.toList_append] at first
  exact first rfl

theorem mem_kinds_group (k : Kind) : k ∈ k.group.kinds := by
  simp [Group.kinds, mem_all]

end Kind

theorem kindsOfCode?_name (g : Group) : kindsOfCode? g.name = some g.kinds := by
  rw [kindsOfCode?, Group.ofName?_name]

theorem kindsOfCode?_key (k : Kind) : kindsOfCode? k.key = some [k] := by
  have unnamed : Group.ofName? k.key = none := by
    rw [Group.ofName?, k.trim_key, String.ofList_toList, List.find?_eq_none]
    intro g _
    simpa using (k.key_ne_name g).symm
  rw [kindsOfCode?, unnamed, Kind.ofKey?_key]
  rfl

end DiagnosticSieve
