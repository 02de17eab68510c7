import DiagnosticSieve.Library.Loading
import DiagnosticSieve.Library.Printer
import DiagnosticSieve.Proofs.FileWrites
import DiagnosticSieve.Proofs.LibraryMembers

namespace DiagnosticSieve

namespace Library

open Json

variable (lib : Library)

theorem ofValue?_value : ofValue? lib.value = some lib := by
  have texts (values : List String) : (Value.list (values.map .text)).texts? = some values :=
    (Value.texts?_eq_some_iff values).mpr rfl
  simp only [value, ofValue?, List.foldlM_cons, List.foldlM_nil, Draft.take?, Member.ofKey?, Draft.has,
    Draft.put?, texts, Value.text?, Value.boolean?, Option.map_some, Option.isSome_none,
    Bool.false_eq_true, if_false, Option.bind_eq_bind, Option.bind_some]
  rfl

theorem parse_print : parse lib.print.toList = .ok lib := by
  rw [print, String.toList_ofList]
  exact ((holds_write lib.value).parse_eq_ok_iff lib).mpr lib.ofValue?_value

end Library

/-- A library is loaded back from every file that it is written to, whatever characters its strings
hold and however many strings there are; except that a library whose label is blank is refused. -/
theorem library_loads_back (lib : Library) (files left : FileTree) (path : String)
    (written : files.write path lib.print.toUTF8 = .ok left) :
    Library.load left path =
      if Text.trim lib.label.toList = [] then .error (.blankLabel path) else .ok lib := by
  rw [Library.load, FileTree.readText_of_write written]
  simp only [Library.ofText, lib.parse_print, Text.trim_eq_nil_iff]

/-- A library with quotes, backslashes, controls and characters beyond the first plane. -/
def oddLibrary : Library :=
  { label := "\u2028//a\"\\\x00\x1f", modules := ["", "\x7f\r\n\t\x08\x0c", "𝄞/é"],
    suppressions := ["\\u0041", "suppress"], legacy := true }

theorem oddLibrary_loads_back :
    (∃ left, FileTree.write {} "a.json" oddLibrary.print.toUTF8 = .ok left ∧
      Library.load left "a.json" = .ok oddLibrary) ∧
    ∃ left, FileTree.write {} "a.json" ({ label := "\u2003\n" } : Library).print.toUTF8 = .ok left ∧
      Library.load left "a.json" = .error (.blankLabel "a.json") := by
  constructor
  · have loaded := library_loads_back oddLibrary {} _ "a.json" rfl
    rw [if_neg (by decide)] at loaded
    exact ⟨_, rfl, loaded⟩
  · have refused := library_loads_back { label := "\u2003\n" } {} _ "a.json" rfl
    rw [if_pos (by decide)] at refused
    exact ⟨_, rfl, refused⟩

end DiagnosticSieve
