import DiagnosticSieve.Proofs.LibraryMembers
import DiagnosticSieve.Text.Basic

/-!
Which texts hold a library. What counts are the values under the keys of each member: a label once,
every other member at most once, each of its type. Order, unknown members and the spelling of the text
do not matter, and a list is read like the object with its elements under the keys of the fields.
-/

namespace DiagnosticSieve.Library

open Json

def Member.keys : Member → List String
  | label => ["label"]
  | modules => ["modules"]
  | suppressions => ["suppress", "suppressions"]
  | legacy => ["legacy"]

theorem Member.ofKey?_eq_some_iff (key : String) (m : Member) :
    Member.ofKey? key = some m ↔ key ∈ m.keys := by
  constructor
  · intro found
    unfold ofKey? at found
    split at found <;> cases found <;> simp [keys]
  · intro member
    cases m with
    | suppressions =>
      rcases List.mem_cons.mp member with rfl | member
      · rfl
      · rw [List.mem_singleton.mp member]
        rfl
    | label | modules | legacy =>
      rw [List.mem_singleton.mp member]
      rfl

def valuesOf (m : Member) (members : List (String × Value)) : List Value :=
  members.filterMap fun (key, v) => if key ∈ m.keys then some v else none

/-- An object tells a library. Members that are absent leave the library without modules and
suppressions, and held to strict checking. -/
structure Describes (members : List (String × Value)) (lib : Library) : Prop where
  label : valuesOf .label members = [.text lib.label]
  named : Text.trim lib.label.toList ≠ []
  modules : valuesOf .modules members = [.list (lib.modules.map .text)] ∨
    valuesOf .modules members = [] ∧ lib.modules = []
  suppressions : valuesOf .suppressions members = [.list (lib.suppressions.map .text)] ∨
    valuesOf .suppressions members = [] ∧ lib.suppressions = []
  legacy : valuesOf .legacy members = [.boolean lib.legacy] ∨
    valuesOf .legacy members = [] ∧ lib.legacy = false

structure Acceptable (members : List (String × Value)) : Prop where
  label : ∃ label, valuesOf .label members = [.text label] ∧ Text.trim label.toList ≠ []
  modules : valuesOf .modules members = [] ∨
    ∃ values : List String, valuesOf .modules members = [.list (values.map .text)]
  suppressions : valuesOf .suppressions members = [] ∨
    ∃ values : List String, valuesOf .suppressions members = [.list (values.map .text)]
  legacy : valuesOf .legacy members = [] ∨ ∃ value, valuesOf .legacy members = [.boolean value]

theorem exists_describes_iff (members : List (String × Value)) :
    (∃ lib, Describes members lib) ↔ Acceptable members := by
  constructor
  · rintro ⟨lib, label, named, modules, suppressions, legacy⟩
    exact
      { label := ⟨lib.label, label, named⟩
        modules := modules.symm.imp And.left fun given => ⟨_, given⟩
        suppressions := suppressions.symm.imp And.left fun given => ⟨_, given⟩
        legacy := legacy.symm.imp And.left fun given => ⟨_, given⟩ }
  · rintro ⟨⟨label, given, named⟩, modules, suppressions, legacy⟩
    have told {α : Type} {make : α → Value} {values : List Value} (absent : α)
        (few : values = [] ∨ ∃ a, values = [make a]) :
        ∃ a, values = [make a] ∨ values = [] ∧ a = absent := by
      rcases few with none | ⟨a, one⟩
      · exact ⟨absent, .inr ⟨none, rfl⟩⟩
      · exact ⟨a, .inl one⟩
    obtain ⟨modules, toldModules⟩ := told [] modules
    obtain ⟨suppressions, toldSuppressions⟩ := told [] suppressions
    obtain ⟨legacy, toldLegacy⟩ := told false legacy
    exact ⟨⟨label, modules, suppressions, legacy⟩, given, named, toldModules, toldSuppressions,
      toldLegacy⟩

/-! ### What a draft holds -/

namespace Draft

def held (d : Draft) : Member → Option Value
  | .label => d.label.map .text
  | .modules => d.modules.map fun values => .list (values.map .text)
  | .suppressions => d.suppressions.map fun values => .list (values.map .text)
  | .legacy => d.legacy.map .boolean

theorem has_eq (d : Draft) (m : Member) : d.has m = (d.held m).isSome := by
  cases m <;> simp [has, held]

theorem eq_of_held {d other : Draft} (same : ∀ m, d.held m = other.held m) : d = other := by
  have fields (d : Draft) : d = ⟨(d.held .label).bind Value.text?, (d.held .modules).bind Value.texts?,
      (d.held .suppressions).bind Value.texts?, (d.held .legacy).bind Value.boolean?⟩ := by
    obtain ⟨label, modules, suppressions, legacy⟩ := d
    cases label <;> cases modules <;> cases suppressions <;> cases legacy <;>
      simp [held, Value.text?, (Value.texts?_eq_some_iff _).mpr rfl, Value.boolean?]
  rw [fields d, fields other]
  simp only [same]

theorem held_of_put? {d filled : Draft} {v : Value} {m : Member} (put : d.put? v m = some filled) :
    filled.held m = some v := by
  cases m <;> obtain ⟨value, typed, rfl⟩ := Option.map_eq_some_iff.mp put
  case label =>
    rw [(Value.text?_eq_some_iff value).mp typed]
    rfl
  case modules | suppressions =>
    rw [(Value.texts?_eq_some_iff value).mp typed]
    rfl
  case legacy =>
    rw [(Value.boolean?_eq_some_iff value).mp typed]
    rfl

theorem held_of_put?_of_ne {d filled : Draft} {v : Value} {m other : Member}
    (put : d.put? v m = some filled) (different : other ≠ m) : filled.held other = d.held other := by
  cases m <;> obtain ⟨value, _, rfl⟩ := Option.map_eq_some_iff.mp put <;> cases other <;>
    first | rfl | exact absurd rfl different

theorem exists_put? {filled : Draft} {v : Value} {m : Member} (holds : filled.held m = some v)
    (d : Draft) : ∃ next, d.put? v m = some next := by
  cases m <;> obtain ⟨value, _, rfl⟩ := Option.map_eq_some_iff.mp holds
  case label => exact ⟨_, rfl⟩
  case modules => exact ⟨_, by rw [put?, (Value.texts?_eq_some_iff value).mpr rfl]; rfl⟩
  case suppressions => exact ⟨_, by rw [put?, (Value.texts?_eq_some_iff value).mpr rfl]; rfl⟩
  case legacy => exact ⟨_, rfl⟩

end Draft

theorem eq_of_toList {α : Type} {found other : Option α} (same : found.toList = other.toList) :
    found = other := by
  cases found <;> cases other <;> simp_all

variable {members : List (String × Value)} {key : String} {v : Value}

theorem valuesOf_cons (m : Member) :
    valuesOf m ((key, v) :: members) =
      (if key ∈ m.keys then [v] else []) ++ valuesOf m members := by
  by_cases known : key ∈ m.keys <;> simp [valuesOf, known]

theorem valuesOf_cons_of_unknown (unknown : Member.ofKey? key = none) (m : Member) :
    valuesOf m ((key, v) :: members) = valuesOf m members := by
  have absent : key ∉ m.keys := by
    rw [← Member.ofKey?_eq_some_iff, unknown]
    simp
  rw [valuesOf_cons, if_neg absent, List.nil_append]

theorem valuesOf_cons_of_known {k : Member} (known : Member.ofKey? key = some k) (m : Member) :
    valuesOf m ((key, v) :: members) = (if m = k then [v] else []) ++ valuesOf m members := by
  have same : key ∈ m.keys ↔ m = k := by
    rw [← Member.ofKey?_eq_some_iff, known, Option.some.injEq, eq_comm]
  rw [valuesOf_cons]
  simp only [same]

theorem held_of_take? {d next : Draft} {k : Member} (known : Member.ofKey? key = some k)
    (taken : d.take? (key, v) = some next) (m : Member) :
    (next.held m).toList = (d.held m).toList ++ if m = k then [v] else [] := by
  simp only [Draft.take?, known, Option.ite_none_left_eq_some] at taken
  obtain ⟨fresh, put⟩ := taken
  by_cases same : m = k
  · subst same
    rw [d.has_eq, Option.not_isSome_iff_eq_none] at fresh
    rw [Draft.held_of_put? put, fresh, if_pos rfl]
    rfl
  · rw [Draft.held_of_put?_of_ne put same, if_neg same, List.append_nil]

theorem exists_take? {d filled : Draft} {k : Member} (known : Member.ofKey? key = some k)
    {more : List Value} (room : (filled.held k).toList = (d.held k).toList ++ v :: more) :
    ∃ next, d.take? (key, v) = some next := by
  have fresh : d.held k = none := by
    have few : (filled.held k).toList.length ≤ 1 := Option.length_toList_le
    rw [room, List.length_append, List.length_cons] at few
    cases before : d.held k with
    | none => rfl
    | some value =>
      rw [before, Option.toList_some, List.length_singleton] at few
      omega
  have given : filled.held k = some v := by
    rw [fresh, Option.toList_none, List.nil_append] at room
    cases after : filled.held k with
    | none => rw [after] at room; cases room
    | some value => rw [after] at room; cases room; rfl
  obtain ⟨next, put⟩ := Draft.exists_put? given d
  exact ⟨next, by simp [Draft.take?, known, d.has_eq, fresh, put]⟩

/-- Members are all taken in exactly if the draft can hold their values: for each member those that
were there and those that come, and of both together at most one. -/
theorem foldlM_take?_eq_some_iff (d filled : Draft) :
    members.foldlM Draft.take? d = some filled ↔
      ∀ m, (filled.held m).toList = (d.held m).toList ++ valuesOf m members := by
  induction members generalizing d with
  | nil =>
    simp only [List.foldlM_nil, Option.pure_def, Option.some.injEq, valuesOf, List.filterMap_nil,
      List.append_nil]
    constructor
    · rintro rfl m
      rfl
    · intro same
      exact (Draft.eq_of_held fun m => eq_of_toList (same m)).symm
  | cons member members ih =>
    obtain ⟨key, v⟩ := member
    rw [List.foldlM_cons]
    cases known : Member.ofKey? key with
    | none =>
      have kept : d.take? (key, v) = some d := by
        simp [Draft.take?, known]
      simp only [kept, Option.bind_eq_bind, Option.bind_some, ih, valuesOf_cons_of_unknown known]
    | some k =>
      simp only [valuesOf_cons_of_known known, ← List.append_assoc]
      constructor
      · intro whole m
        obtain ⟨next, taken, others⟩ := Option.bind_eq_some_iff.mp whole
        rw [(ih next).mp others m, held_of_take? known taken]
      · intro whole
        -- The draft in the end has room for this member, so there was room for it before.
        have own := whole k
        rw [if_pos rfl, List.append_assoc] at own
        obtain ⟨next, taken⟩ := exists_take? known own
        refine Option.bind_eq_some_iff.mpr ⟨next, taken, (ih next).mpr fun m => ?_⟩
        rw [whole m, held_of_take? known taken]

theorem exists_slot_iff {α : Type} (make : α → Value) (absent a : α) (values : List Value) :
    (∃ slot : Option α, (slot.map make).toList = values ∧ slot.getD absent = a) ↔
      values = [make a] ∨ values = [] ∧ a = absent := by
  constructor
  · rintro ⟨slot, rfl, rfl⟩
    cases slot <;> simp
  · rintro (rfl | ⟨rfl, rfl⟩)
    · exact ⟨some a, rfl, rfl⟩
    · exact ⟨none, rfl, rfl⟩

theorem ofValue?_object_eq_some_iff (lib : Library) :
    ofValue? (.object members) = some lib ∧ Text.trim lib.label.toList ≠ [] ↔
      Describes members lib := by
  constructor
  · rintro ⟨found, named⟩
    obtain ⟨d, filled, whole⟩ := Option.bind_eq_some_iff.mp found
    have same := (foldlM_take?_eq_some_iff {} d).mp filled
    obtain ⟨label, given, rfl⟩ := Option.map_eq_some_iff.mp whole
    exact
      { label := (same .label).symm.trans (by rw [Draft.held, given]; rfl)
        named
        modules := (exists_slot_iff _ _ _ _).mp ⟨d.modules, same .modules, rfl⟩
        suppressions := (exists_slot_iff _ _ _ _).mp ⟨d.suppressions, same .suppressions, rfl⟩
        legacy := (exists_slot_iff _ _ _ _).mp ⟨d.legacy, same .legacy, rfl⟩ }
  · intro described
    let texts (values : List String) : Value := .list (values.map .text)
    obtain ⟨modules, heldModules, givenModules⟩ :=
      (exists_slot_iff texts [] _ _).mpr described.modules
    obtain ⟨suppressions, heldSuppressions, givenSuppressions⟩ :=
      (exists_slot_iff texts [] _ _).mpr described.suppressions
    obtain ⟨legacy, heldLegacy, givenLegacy⟩ :=
      (exists_slot_iff .boolean false _ _).mpr described.legacy
    refine ⟨Option.bind_eq_some_iff.mpr ⟨⟨some lib.label, modules, suppressions, legacy⟩, ?_, ?_⟩,
      described.named⟩
    · refine (foldlM_take?_eq_some_iff {} _).mpr fun m => ?_
      cases m with
      | label => exact described.label.symm
      | modules => exact heldModules
      | suppressions => exact heldSuppressions
      | legacy => exact heldLegacy
    · rw [Draft.library?, Option.map_some, givenModules, givenSuppressions, givenLegacy]

/-! ### Members that do not matter -/

/-- Lists of members that differ in their order, in the key of the suppressions, and in members that
a library does not have. -/
inductive Alike : List (String × Value) → List (String × Value) → Prop
  | reordered {members others : List (String × Value)} (same : members.Perm others) :
      Alike members others
  | respelled (before after : List (String × Value)) (v : Value) :
      Alike (before ++ ("suppress", v) :: after) (before ++ ("suppressions", v) :: after)
  | extended (before after : List (String × Value)) {key : String} (v : Value)
      (unknown : ∀ m : Member, key ∉ m.keys) : Alike (before ++ after) (before ++ (key, v) :: after)
  | symm {members others : List (String × Value)} (alike : Alike members others) :
      Alike others members
  | trans {members others more : List (String × Value)} (first : Alike members others)
      (second : Alike others more) : Alike members more

theorem valuesOf_append (m : Member) (before after : List (String × Value)) :
    valuesOf m (before ++ after) = valuesOf m before ++ valuesOf m after := List.filterMap_append

theorem Alike.valuesOf_perm {others : List (String × Value)} (alike : Alike members others)
    (m : Member) : (valuesOf m members).Perm (valuesOf m others) := by
  induction alike with
  | reordered same => exact same.filterMap _
  | respelled before after v =>
    have known : ∀ key ∈ ["suppress", "suppressions"],
        Member.ofKey? key = some .suppressions := by decide
    rw [valuesOf_append, valuesOf_append, valuesOf_cons_of_known (known _ (by simp)),
      valuesOf_cons_of_known (known "suppressions" (by simp))]
  | extended before after v unknown =>
    rw [valuesOf_append, valuesOf_append, valuesOf_cons, if_neg (unknown m), List.nil_append]
  | symm _ ih => exact ih.symm
  | trans _ _ first second => exact first.trans second

theorem Describes.of_alike {others : List (String × Value)} {lib : Library}
    (alike : Alike members others) (described : Describes members lib) : Describes others lib := by
  have single {m : Member} {v : Value} (given : valuesOf m members = [v]) :
      valuesOf m others = [v] := by
    have same := alike.valuesOf_perm m
    rw [given] at same
    exact List.perm_singleton.mp same.symm
  have none {m : Member} (absent : valuesOf m members = []) : valuesOf m others = [] := by
    have same := alike.valuesOf_perm m
    rw [absent] at same
    exact List.perm_nil.mp same.symm
  exact
    { label := single described.label
      named := described.named
      modules := described.modules.imp single fun absent => ⟨none absent.1, absent.2⟩
      suppressions := described.suppressions.imp single fun absent => ⟨none absent.1, absent.2⟩
      legacy := described.legacy.imp single fun absent => ⟨none absent.1, absent.2⟩ }

/-! ### Lists -/

def fieldNames : List String := [Member.label, .modules, .suppressions, .legacy].map Member.name

theorem Draft.take?_name (d : Draft) (m : Member) (v : Value) :
    d.take? (m.name, v) = if d.has m then none else d.put? v m := by
  cases m <;> rfl

theorem ofElements?_eq_ofValue?_zip {elements : List Value} (filled : elements ≠ [])
    (few : elements.length ≤ 4) :
    ofElements? elements = ofValue? (.object (fieldNames.zip elements)) := by
  obtain ⟨label, others, rfl⟩ := List.exists_cons_of_ne_nil filled
  -- Without a fifth element, both sides ask the same of each element in turn.
  rcases others with _ | ⟨modules, _ | ⟨suppressions, _ | ⟨legacy, _ | _⟩⟩⟩
  case cons.cons.cons.cons =>
    simp only [List.length_cons] at few
    omega
  all_goals
    simp [ofElements?, ofValue?, fieldNames, element?, Draft.take?_name, Draft.has, Draft.put?,
      Draft.library?, Option.bind_assoc, Option.bind_map, Function.comp_def]

end DiagnosticSieve.Library
