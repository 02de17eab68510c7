import DiagnosticSieve.Proofs.FlagNames
import DiagnosticSieve.Proofs.PassThrough

namespace DiagnosticSieve

def valuesOf (f : ObservedFlag) (arguments : List String) : List String :=
  (flagged arguments).filterMap fun x =>
    if Argument.flagPart x.1 = f.name then (Argument.split x.1).2.or arguments[x.2 + 1]? else none

/-- Somewhere the bare flag is followed by a flag of the runner, so that its value is not passed on. -/
def Severed (f : ObservedFlag) (arguments : List String) : Prop :=
  ∃ i next, atFlagPosition arguments i = true ∧ arguments[i]? = some f.name ∧
    arguments[i + 1]? = some next ∧ Argument.flagPart next ∈ runnerFlags

theorem valuesOf_eq (f : ObservedFlag) (arguments : List String) :
    valuesOf f arguments = (occurrences arguments).filterMap (Occurrence.observed? f) := by
  have named : (Flag.observed f).name? = some f.name := rfl
  exact (filterMap_given? named arguments).symm

namespace Occurrence

structure Cut (f : ObservedFlag) (o : Occurrence) (value : String) : Prop where
  flag : o.flag = .observed f
  bare : o.inlineValue = none
  behind : o.next = some value
  forRunner : Argument.flagPart value ∈ runnerFlags

theorem Cut.passes {f : ObservedFlag} {o : Occurrence} {value : String} (cut : o.Cut f value) :
    o.passes = true := by
  simp only [Occurrence.passes, cut.flag]

end Occurrence

theorem severed_iff (f : ObservedFlag) (arguments : List String) :
    Severed f arguments ↔ ∃ o ∈ passing arguments, ∃ next, o.Cut f next := by
  constructor
  · rintro ⟨i, next, start, bare, behind, lost⟩
    have cut : (Occurrence.ofArgument f.name arguments[i + 1]?).Cut f next := by
      constructor
      · exact (Flag.ofString_eq_iff rfl _).mpr (congrArg Prod.fst f.split_name)
      · rw [Occurrence.ofArgument, f.split_name]
      · exact behind
      · exact lost
    refine ⟨_, List.mem_filter.mpr ⟨?_, cut.passes⟩, next, cut⟩
    rw [occurrences_eq]
    exact List.mem_map.mpr ⟨(f.name, i), (mem_flagged_iff ..).mpr ⟨bare, start⟩, rfl⟩
  · rintro ⟨o, member, next, cut⟩
    have read := (List.mem_filter.mp member).1
    rw [occurrences_eq] at read
    obtain ⟨⟨text, i⟩, place, rfl⟩ := List.mem_map.mp read
    obtain ⟨found, start⟩ := (mem_flagged_iff ..).mp place
    have named : text = f.name := by
      rw [← Argument.split_fst_of_bare text cut.bare]
      exact (Flag.ofString_eq_iff rfl _).mp cut.flag
    exact ⟨i, next, start, by rw [found, named], cut.behind, cut.forRunner⟩

/-- What goes to the compiler behind each argument is the argument that was behind it before, unless that
is kept from the compiler. -/
def Linked : List Occurrence → Prop
  | [] => True
  | o :: os =>
    (os.head?.map Occurrence.text = o.next ↔
      ∀ next, o.next = some next → Argument.flagPart next ∉ runnerFlags) ∧ Linked os

theorem head?_passing_cons_iff (next : String) (rest : List String) :
    (passing (next :: rest)).head?.map Occurrence.text = some next ↔
      Argument.flagPart next ∉ runnerFlags := by
  constructor
  · intro first
    obtain ⟨o, head, same⟩ := Option.map_eq_some_iff.mp first
    have member := List.mem_of_head? head
    have passes := (List.mem_filter.mp member).2
    rw [mem_occurrences_eq_ofArgument (List.mem_filter.mp member).1, same,
      Occurrence.passes_ofArgument] at passes
    simpa using passes
  · intro other
    have passes : (Occurrence.ofArgument next rest.head?).passes = true := by
      rw [Occurrence.passes_ofArgument]
      simpa using other
    rw [passing, occurrences_cons, List.filter_cons_of_pos passes]
    rfl

theorem linked_passing (arguments : List String) : Linked (passing arguments) := by
  unfold passing
  fun_induction occurrences arguments with
  | case1 => trivial
  | case2 text =>
    rw [List.filter_cons]
    split
    · refine ⟨?_, trivial⟩
      constructor
      · intro _ next behind
        cases behind
      · intro _
        rfl
    · trivial
  | case3 text next rest first takes ih =>
    have kept : ¬ first.passes = true := fun passes => by
      rw [Occurrence.takesNext_of_passes passes] at takes
      cases takes
    rw [List.filter_cons_of_neg kept]
    exact ih
  | case4 text next rest first leaves ih =>
    rw [List.filter_cons]
    split
    · refine ⟨?_, ih⟩
      rw [show first.next = some next from rfl]
      refine (head?_passing_cons_iff next rest).trans ?_
      simp
    · exact ih

section

variable {f : ObservedFlag} {o : Occurrence} {os : List Occurrence} {value : String}

theorem observed?_before (flag : o.flag = .observed f) (next : Option String) :
    (o.before next).observed? f = o.inlineValue.or next := if_pos flag

theorem Occurrence.Cut.observed?_eq (cut : o.Cut f value) : o.observed? f = some value := by
  have own : o.observed? f = o.inlineValue.or o.next := observed?_before cut.flag o.next
  rw [own, cut.bare, cut.behind, Option.none_or]

theorem observed?_before_head (linked : Linked (o :: os)) (whole : ∀ value, ¬ o.Cut f value) :
    (o.before (os.head?.map Occurrence.text)).observed? f = o.observed? f := by
  by_cases flag : o.flag = .observed f
  · cases inline : o.inlineValue with
    | some value =>
      have own : o.observed? f = o.inlineValue.or o.next := observed?_before flag o.next
      rw [own, observed?_before flag, inline, Option.some_or, Option.some_or]
    | none =>
      have kept : ∀ next, o.next = some next → Argument.flagPart next ∉ runnerFlags :=
        fun next behind forRunner => whole next ⟨flag, inline, behind, forRunner⟩
      rw [linked.1.mpr kept]
      rfl
  · have unread (next : Option String) : (o.before next).observed? f = none := if_neg flag
    exact (unread _).trans (unread o.next).symm

theorem observed_relink_cons_ne (linked : Linked (o :: os)) (cut : o.Cut f value) :
    (relink (o :: os)).filterMap (Occurrence.observed? f) ≠
      (o :: os).filterMap (Occurrence.observed? f) := by
  have moved : os.head?.map Occurrence.text ≠ some value := by
    rw [← cut.behind]
    exact fun same => linked.1.mp same value cut.behind cut.forRunner
  rw [relink, List.filterMap_cons, List.filterMap_cons, observed?_before cut.flag, cut.bare,
    Option.none_or, cut.observed?_eq]
  cases os with
  | nil => simp [relink]
  | cons p os =>
    intro same
    exact moved (congrArg List.head? same)

end

theorem observed_relink_eq_iff (f : ObservedFlag) (os : List Occurrence) (linked : Linked os) :
    (relink os).filterMap (Occurrence.observed? f) = os.filterMap (Occurrence.observed? f) ↔
      ∀ o ∈ os, ∀ value, ¬ o.Cut f value := by
  induction os with
  | nil => simp [relink]
  | cons o os ih =>
    rw [List.forall_mem_cons, ← ih linked.2]
    by_cases whole : ∀ value, ¬ o.Cut f value
    · rw [relink, List.filterMap_cons, List.filterMap_cons, observed?_before_head linked whole]
      cases o.observed? f <;> simp [whole]
    · obtain ⟨value, cut⟩ := Classical.not_forall_not.mp whole
      simp only [observed_relink_cons_ne linked cut, whole, false_and]

theorem length_observed_relink_le (f : ObservedFlag) (os : List Occurrence) (linked : Linked os) :
    ((relink os).filterMap (Occurrence.observed? f)).length ≤
      (os.filterMap (Occurrence.observed? f)).length := by
  induction os with
  | nil => exact Nat.le_refl _
  | cons o os ih =>
    have tail := ih linked.2
    rw [relink, List.filterMap_cons, List.filterMap_cons]
    by_cases whole : ∀ value, ¬ o.Cut f value
    · rw [observed?_before_head linked whole]
      cases o.observed? f with
      | none => exact tail
      | some value => exact Nat.succ_le_succ tail
    · obtain ⟨value, cut⟩ := Classical.not_forall_not.mp whole
      rw [cut.observed?_eq]
      cases (o.before (os.head?.map Occurrence.text)).observed? f with
      | none => exact Nat.le_succ_of_le tail
      | some next => exact Nat.succ_le_succ tail

theorem valuesOf_conserved (f : ObservedFlag) (arguments : List String) :
    valuesOf f (conserved arguments) = (relink (passing arguments)).filterMap (Occurrence.observed? f) := by
  rw [valuesOf_eq, occurrences_conserved]

theorem valuesOf_eq_passing (f : ObservedFlag) (arguments : List String) :
    valuesOf f arguments = (passing arguments).filterMap (Occurrence.observed? f) := by
  rw [valuesOf_eq, filterMap_passing _ fun o kept => Occurrence.observed?_eq_none_of_not_passes f kept]

theorem valuesOf_conserved_eq_iff (f : ObservedFlag) (arguments : List String) :
    valuesOf f (conserved arguments) = valuesOf f arguments ↔ ¬ Severed f arguments := by
  rw [valuesOf_conserved, valuesOf_eq_passing,
    observed_relink_eq_iff f (passing arguments) (linked_passing arguments), severed_iff]
  simp only [not_exists, not_and]

theorem length_valuesOf_conserved_le (f : ObservedFlag) (arguments : List String) :
    (valuesOf f (conserved arguments)).length ≤ (valuesOf f arguments).length := by
  rw [valuesOf_conserved, valuesOf_eq_passing]
  exact length_observed_relink_le f (passing arguments) (linked_passing arguments)

theorem eq_of_getLast?_eq {α : Type} {xs ys : List α} (few : xs.length ≤ ys.length)
    (one : ys.length ≤ 1) (last : xs.getLast? = ys.getLast?) : xs = ys := by
  match ys, one with
  | [], _ => exact List.eq_nil_of_length_eq_zero (Nat.le_zero.mp few)
  | [y], _ =>
    match xs, few with
    | [], _ => simp at last
    | [x], _ => simpa using last

theorem getLast?_valuesOf_conserved_eq_iff (f : ObservedFlag) (arguments : List String)
    (once : (valuesOf f arguments).length ≤ 1) :
    (valuesOf f (conserved arguments)).getLast? = (valuesOf f arguments).getLast? ↔
      ¬ Severed f arguments := by
  rw [← valuesOf_conserved_eq_iff]
  constructor
  · exact eq_of_getLast?_eq (length_valuesOf_conserved_le f arguments) once
  · intro same
    rw [same]

structure Settings.Observes (s : Settings) (arguments : List String) : Prop where
  roots : s.roots = valuesOf .jsModuleRoot arguments
  jsOutputFile : s.jsOutputFile = (valuesOf .jsOutputFile arguments).getLast?
  createSourceMap : s.createSourceMap = (valuesOf .createSourceMap arguments).getLast?

theorem Settings.observes {arguments : List String} {s : Settings}
    (accepted : ofArguments arguments = .ok s) : s.Observes arguments := by
  have shows := ((ofArguments_eq_ok_iff arguments s).mp accepted).shows
  constructor
  · rw [shows.roots, valuesOf_eq]
    rfl
  · rw [shows.jsOutputFile, valuesOf_eq]
    exact Option.or_none
  · rw [shows.createSourceMap, valuesOf_eq]
    exact Option.or_none

/-- The settings of the arguments that go to the compiler ask for the same checks as the settings of all
arguments. An observed flag keeps its list of values exactly if it nowhere stands bare before a flag of
the runner. Where it does, the runner takes that one for the value, and the compiler what is left behind
it. A file is the last value of its list, so that it may still be the same where the flag is repeated; if
the flag is given once, the text is another one. Texts are compared, not the paths that they spell. -/
theorem observed_flags_read_back_iff (arguments : List String) (s : Settings)
    (accepted : Settings.ofArguments arguments = .ok s) :
    s.Observes arguments ∧
      ∃ again, Settings.ofArguments s.passThrough = .ok again ∧ again.Observes s.passThrough ∧
        again.checksOnly = s.checksOnly ∧
        (∀ f, valuesOf f s.passThrough = valuesOf f arguments ↔ ¬ Severed f arguments) ∧
        (again.roots = s.roots ↔ ¬ Severed .jsModuleRoot arguments) ∧
        (¬ Severed .jsOutputFile arguments → again.jsOutputFile = s.jsOutputFile) ∧
        (¬ Severed .createSourceMap arguments → again.createSourceMap = s.createSourceMap) ∧
        (Severed .jsOutputFile arguments → (valuesOf .jsOutputFile arguments).length = 1 →
          again.jsOutputFile ≠ s.jsOutputFile) ∧
        (Severed .createSourceMap arguments → (valuesOf .createSourceMap arguments).length = 1 →
          again.createSourceMap ≠ s.createSourceMap) := by
  have first := Settings.observes accepted
  obtain ⟨again, reread⟩ := Settings.exists_ofArguments_conserved accepted
  have second := Settings.observes reread
  have checks := Settings.checksOnly_eq accepted reread
  have whole (f : ObservedFlag) := valuesOf_conserved_eq_iff f arguments
  have lost (f : ObservedFlag) (severed : Severed f arguments)
      (once : (valuesOf f arguments).length = 1) :
      (valuesOf f (conserved arguments)).getLast? ≠ (valuesOf f arguments).getLast? := fun same =>
    (getLast?_valuesOf_conserved_eq_iff f arguments (Nat.le_of_eq once)).mp same severed
  rw [Settings.passThrough_eq accepted]
  refine ⟨first, again, reread, second, checks, whole, ?_⟩
  rw [first.roots, second.roots, first.jsOutputFile, second.jsOutputFile, first.createSourceMap,
    second.createSourceMap]
  refine ⟨whole _, ?_, ?_, lost _, lost _⟩
  · intro intact
    rw [(whole _).mpr intact]
  · intro intact
    rw [(whole _).mpr intact]

def severedArguments : List String :=
  ["--js_module_root", "src", "--js_output_file", "--info", "libs.json", "out.js", "--checks_only"]

theorem severedArguments_keep_root :
    ∃ s, Settings.ofArguments severedArguments = .ok s ∧ s.jsOutputFile = some "--info" ∧
      ∃ again, Settings.ofArguments s.passThrough = .ok again ∧ again.checksOnly = true ∧
        again.roots = ["src"] ∧ again.jsOutputFile = some "out.js" ∧
        again.jsOutputFile ≠ s.jsOutputFile := by
  obtain ⟨s, accepted⟩ : ∃ s, Settings.ofArguments severedArguments = .ok s := ⟨_, rfl⟩
  obtain ⟨first, again, reread, second, checks, values, roots, _, _, lost, _⟩ :=
    observed_flags_read_back_iff severedArguments s accepted
  have passed : s.passThrough =
      ["--js_module_root", "src", "--js_output_file", "out.js", "--checks_only"] := by
    cases accepted
    rfl
  have severed : Severed .jsOutputFile severedArguments :=
    ⟨2, "--info", by decide, rfl, rfl, by decide⟩
  have intact : ¬ Severed .jsModuleRoot severedArguments :=
    (values .jsModuleRoot).mp (by rw [passed]; decide)
  refine ⟨s, accepted, ?_, again, reread, ?_, ?_, ?_, lost severed (by decide)⟩
  · rw [first.jsOutputFile]
    decide
  · rw [checks]
    cases accepted
    rfl
  · rw [roots.mpr intact, first.roots]
    decide
  · rw [second.jsOutputFile, passed]
    decide

/-- The compiler does not always get what the settings hold. -/
theorem compiler_misses_severed_file :
    ¬ ∀ arguments s, Settings.ofArguments arguments = .ok s →
      ∃ again, Settings.ofArguments s.passThrough = .ok again ∧ again.roots = s.roots ∧
        again.jsOutputFile = s.jsOutputFile ∧ again.createSourceMap = s.createSourceMap ∧
        again.checksOnly = s.checksOnly := by
  intro kept
  obtain ⟨again, reread, _, file, _⟩ :=
    kept ["--js_output_file", "--info", "libs.json", "out.js"] _ rfl
  cases reread
  exact absurd file (by decide)

end DiagnosticSieve
