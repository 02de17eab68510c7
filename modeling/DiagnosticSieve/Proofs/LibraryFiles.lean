import DiagnosticSieve.Library.Loading
import DiagnosticSieve.Proofs.FileWrites
import DiagnosticSieve.Proofs.LibraryAcceptance

namespace DiagnosticSieve.Library

open Json

def Written (files : FileTree) (path : String) (v : Value) : Prop :=
  ∃ text, files.readText path = .ok text ∧ Holds text.toList v

variable {files : FileTree} {path : String} {v : Value}

theorem Written.of_write {left : FileTree} {text : String} (holds : Holds text.toList v)
    (written : files.write path text.toUTF8 = .ok left) : Written left path v :=
  ⟨text, FileTree.readText_of_write written, holds⟩

theorem Written.load_eq_ok_iff (written : Written files path v) (lib : Library) :
    load files path = .ok lib ↔ ofValue? v = some lib ∧ Text.trim lib.label.toList ≠ [] := by
  obtain ⟨text, readable, holds⟩ := written
  rw [← holds.parse_eq_ok_iff, load, readable]
  dsimp only
  rw [ofText]
  cases parse text.toList with
  | error fault => simp
  | ok whole =>
    dsimp only
    constructor
    · intro loaded
      split at loaded
      · cases loaded
      · next visible =>
        cases loaded
        exact ⟨rfl, fun blank => visible ((Text.trim_eq_nil_iff _).mp blank)⟩
    · rintro ⟨same, named⟩
      cases same
      exact if_neg fun blank => named ((Text.trim_eq_nil_iff _).mpr blank)

theorem Written.load_object_eq_ok_iff {members : List (String × Value)}
    (written : Written files path (.object members)) (lib : Library) :
    load files path = .ok lib ↔ Describes members lib :=
  (written.load_eq_ok_iff lib).trans (ofValue?_object_eq_some_iff lib)

/-- An object is loaded exactly if it tells a library, and then as that library: the members count,
but not their order, the key of the suppressions, what else the object has, or how it is written. A
list is loaded like the object with its elements under the keys of the fields. -/
theorem library_known_by_its_members :
    (∀ (files : FileTree) (path : String) (members : List (String × Value)),
      Written files path (.object members) →
        ((∃ lib, load files path = .ok lib) ↔ Acceptable members) ∧
        ∀ lib, load files path = .ok lib ↔ Describes members lib) ∧
    (∀ (files otherFiles : FileTree) (path otherPath : String)
      (members others : List (String × Value)),
      Written files path (.object members) → Written otherFiles otherPath (.object others) →
      Alike members others →
        ∀ lib, load files path = .ok lib ↔ load otherFiles otherPath = .ok lib) ∧
    ∀ (files otherFiles : FileTree) (path otherPath : String) (elements : List Value),
      elements ≠ [] → elements.length ≤ 4 → Written files path (.list elements) →
      Written otherFiles otherPath (.object (fieldNames.zip elements)) →
        ∀ lib, load files path = .ok lib ↔ load otherFiles otherPath = .ok lib := by
  refine ⟨?object, ?alike, ?list⟩
  case object =>
    intro files path members written
    refine ⟨?_, written.load_object_eq_ok_iff⟩
    rw [← exists_describes_iff]
    exact exists_congr written.load_object_eq_ok_iff
  case alike =>
    intro files otherFiles path otherPath members others written otherwise alike lib
    rw [written.load_object_eq_ok_iff, otherwise.load_object_eq_ok_iff]
    exact ⟨.of_alike alike, .of_alike alike.symm⟩
  case list =>
    intro files otherFiles path otherPath elements filled few written otherwise lib
    rw [written.load_eq_ok_iff, otherwise.load_eq_ok_iff,
      ← ofElements?_eq_ofValue?_zip filled few]
    rfl

theorem exists_written {text : List Char} (holds : Holds text v) :
    ∃ files, Written files "a.json" v := by
  have held : Holds (String.ofList text).toList v := by rwa [String.toList_ofList]
  have written : FileTree.write {} "a.json" (String.ofList text).toUTF8 = .ok _ := rfl
  exact ⟨_, .of_write held written⟩

def looseLabel : Json.Entry :=
  { name := "label", before := "\n".toList, quoted := "\"l\\u0061bel\"".toList, after := " ".toList
    item :=
      { value := .text "//a", before := "\t".toList, text := "\"//a\"".toList, after := " ".toList } }

theorem framed_looseLabel : looseLabel.Framed where
  before := List.all_eq_true.mp rfl
  quoted := .quoted (.cons (.plain (by decide) (by decide) rfl) (.cons (.unit rfl)
    (.cons (.plain (by decide) (by decide) rfl) (.cons (.plain (by decide) (by decide) rfl)
      (.cons (.plain (by decide) (by decide) rfl) .nil)))))
  after := List.all_eq_true.mp rfl
  item := ⟨List.all_eq_true.mp rfl, List.all_eq_true.mp rfl⟩

def looseRest : List (String × Value) :=
  [("note", .object [("label", .null)]), ("suppress", .list [.text "JSC_X"]),
    ("note", .number true ⟨15, -1⟩)]

def looseMembers : List (String × Value) := looseLabel.member :: looseRest

theorem exists_written_loose : ∃ files, Written files "a.json" (.object looseMembers) := by
  have framed : ∀ e ∈ looseLabel :: looseRest.map .compact, e.Framed :=
    List.forall_mem_cons.mpr ⟨framed_looseLabel,
      List.forall_mem_map.mpr fun m _ => Json.Entry.framed_compact m⟩
  have each : ∀ e ∈ looseLabel :: looseRest.map .compact, Spells e.item.value e.item.text :=
    List.forall_mem_cons.mpr ⟨.text (spellsText_writeText "//a".toList),
      List.forall_mem_map.mpr fun m _ => spells_write m.2⟩
  exact exists_written ⟨⟨_, [], _, []⟩, rfl, ⟨blanks_nil, blanks_nil⟩,
    .object looseLabel (looseRest.map .compact) framed each, rfl⟩

theorem looseMembers_known :
    ∃ loose plain list twice : FileTree,
      Written loose "a.json" (.object looseMembers) ∧
      load loose "a.json" = .ok { label := "//a", suppressions := ["JSC_X"] } ∧
      Written plain "a.json"
        (.object [("suppressions", .list [.text "JSC_X"]), ("label", .text "//a")]) ∧
      load plain "a.json" = .ok { label := "//a", suppressions := ["JSC_X"] } ∧
      Written list "a.json" (.list [.text "//a", .list [], .list [.text "JSC_X"]]) ∧
      load list "a.json" = .ok { label := "//a", suppressions := ["JSC_X"] } ∧
      Written twice "a.json"
        (.object [("label", .text "//a"), ("suppress", .list []), ("suppressions", .list [])]) ∧
      ¬ ∃ lib, load twice "a.json" = .ok lib := by
  obtain ⟨loose, looseWritten⟩ := exists_written_loose
  obtain ⟨plain, plainWritten⟩ := exists_written
    (holds_write (.object [("suppressions", .list [.text "JSC_X"]), ("label", .text "//a")]))
  obtain ⟨list, listWritten⟩ :=
    exists_written (holds_write (.list [.text "//a", .list [], .list [.text "JSC_X"]]))
  obtain ⟨named, namedWritten⟩ := exists_written (holds_write
    (.object (fieldNames.zip [.text "//a", .list [], .list [.text "JSC_X"]])))
  obtain ⟨twice, twiceWritten⟩ := exists_written (holds_write
    (.object [("label", .text "//a"), ("suppress", .list []), ("suppressions", .list [])]))
  have unknown : ∀ m : Member, "note" ∉ m.keys := by
    intro m
    cases m <;> decide
  have alike : Alike looseMembers [("suppressions", .list [.text "JSC_X"]), ("label", .text "//a")] :=
    .trans (.symm (.extended [looseLabel.member] _ _ unknown))
      (.trans (.symm (.extended [looseLabel.member, ("suppress", .list [.text "JSC_X"])] [] _ unknown))
        (.trans (.respelled [looseLabel.member] [] _) (.reordered (.swap ..))))
  have known : load loose "a.json" = .ok { label := "//a", suppressions := ["JSC_X"] } := by
    refine ((library_known_by_its_members.1 _ _ _ looseWritten).2 _).mpr
      ⟨rfl, by decide, .inr ⟨rfl, rfl⟩, .inl rfl, .inr ⟨rfl, rfl⟩⟩
  have named : load named "a.json" = .ok { label := "//a", suppressions := ["JSC_X"] } := by
    refine ((library_known_by_its_members.1 _ _ _ namedWritten).2 _).mpr
      ⟨rfl, by decide, .inl rfl, .inl rfl, .inr ⟨rfl, rfl⟩⟩
  refine ⟨loose, plain, list, twice, looseWritten, known, plainWritten, ?_, listWritten, ?_,
    twiceWritten, ?_⟩
  · exact (library_known_by_its_members.2.1 _ _ _ _ _ _ looseWritten plainWritten alike _).mp known
  · exact (library_known_by_its_members.2.2 _ _ _ _ _ (by simp) (by decide) listWritten namedWritten
      _).mpr named
  · rw [(library_known_by_its_members.1 _ _ _ twiceWritten).1]
    rintro ⟨_, _, none | ⟨values, one⟩, _⟩
    · cases none
    · exact absurd (congrArg List.length one) (by decide : 2 ≠ 1)

end DiagnosticSieve.Library
