import DiagnosticSieve.Proofs.FlagPositions
import DiagnosticSieve.Proofs.SettingsSteps

namespace DiagnosticSieve

def conserved (arguments : List String) : List String :=
  (arguments.zipIdx.filter fun x =>
    atFlagPosition arguments x.2 && !runnerFlags.contains (Argument.flagPart x.1)).map Prod.fst

namespace Occurrence

theorem passes_eq_not_forRunner (o : Occurrence) : o.passes = !o.flag.forRunner := by
  rw [passes]
  cases o.flag <;> rfl

theorem passes_ofArgument (text : String) (next : Option String) :
    (ofArgument text next).passes = !runnerFlags.contains (Argument.flagPart text) := by
  rw [passes_eq_not_forRunner, flag, ofArgument, Flag.forRunner_ofString, Argument.split_fst]

theorem takesNext_of_passes {o : Occurrence} (passes : o.passes = true) : o.takesNext = false := by
  cases flag : o.flag <;> simp [Occurrence.passes, takesNext, flag] at passes ⊢

def before (o : Occurrence) (next : Option String) : Occurrence := { o with next }

theorem Sound.before {o : Occurrence} (sound : o.Sound) (passes : o.passes = true)
    (next : Option String) : (o.before next).Sound := by
  cases sound with
  | value f flag value given => simp [Occurrence.passes, flag] at passes
  | switch f flag on given => simp [Occurrence.passes, flag] at passes
  | observed f flag => exact .observed f flag
  | checksOnly flag on given => exact .checksOnly flag on given
  | other flag => exact .other flag

theorem checksOnly?_eq_none_of_not_passes {o : Occurrence} (kept : o.passes = false) :
    o.checksOnly? = none := by
  cases flag : o.flag <;> simp [Occurrence.passes, checksOnly?, flag] at kept ⊢

theorem observed?_eq_none_of_not_passes (f : ObservedFlag) {o : Occurrence}
    (kept : o.passes = false) : o.observed? f = none := by
  cases flag : o.flag <;> simp [Occurrence.passes, observed?, flag] at kept ⊢

end Occurrence

def passing (arguments : List String) : List Occurrence :=
  (occurrences arguments).filter Occurrence.passes

theorem mem_occurrences_eq_ofArgument {arguments : List String} {o : Occurrence}
    (member : o ∈ occurrences arguments) : o = Occurrence.ofArgument o.text o.next := by
  rw [occurrences_eq] at member
  obtain ⟨x, _, rfl⟩ := List.mem_map.mp member
  rfl

theorem map_text_passing (arguments : List String) :
    (passing arguments).map Occurrence.text = conserved arguments := by
  have goes : Occurrence.passes ∘ (fun x : String × Nat =>
      Occurrence.ofArgument x.1 arguments[x.2 + 1]?) =
        fun x => !runnerFlags.contains (Argument.flagPart x.1) :=
    funext fun x => Occurrence.passes_ofArgument x.1 arguments[x.2 + 1]?
  rw [passing, occurrences_eq, List.filter_map, List.map_map, goes, flagged, List.filter_filter,
    conserved]
  simp only [Bool.and_comm]
  rfl

theorem filterMap_passing {α : Type} (about : Occurrence → Option α)
    (silent : ∀ o : Occurrence, o.passes = false → about o = none) (arguments : List String) :
    (passing arguments).filterMap about = (occurrences arguments).filterMap about := by
  have same : (fun o : Occurrence => if o.passes = true then about o else none) = about := by
    funext o
    cases passes : o.passes with
    | true => rfl
    | false => simp [silent o passes]
  rw [passing, List.filterMap_filter, same]

def relink : List Occurrence → List Occurrence
  | [] => []
  | o :: os => o.before (os.head?.map Occurrence.text) :: relink os

theorem mem_relink {os : List Occurrence} {o : Occurrence} (member : o ∈ relink os) :
    ∃ first ∈ os, ∃ next, o = first.before next := by
  induction os with
  | nil => cases member
  | cons first os ih =>
    rcases List.mem_cons.mp member with rfl | behind
    · exact ⟨first, List.mem_cons_self, _, rfl⟩
    · obtain ⟨other, inside, same⟩ := ih behind
      exact ⟨other, List.mem_cons_of_mem first inside, same⟩

theorem map_text_relink (os : List Occurrence) :
    (relink os).map Occurrence.text = os.map Occurrence.text := by
  induction os with
  | nil => rfl
  | cons o os ih =>
    rw [relink, List.map_cons, List.map_cons, ih]
    rfl

theorem filterMap_relink {α : Type} (about : Occurrence → Option α)
    (steady : ∀ (o : Occurrence) next, about (o.before next) = about o) (os : List Occurrence) :
    (relink os).filterMap about = os.filterMap about := by
  induction os with
  | nil => rfl
  | cons o os ih => rw [relink, List.filterMap_cons, List.filterMap_cons, steady, ih]

theorem occurrences_map_text (os : List Occurrence)
    (read : ∀ o ∈ os, o = Occurrence.ofArgument o.text o.next)
    (alone : ∀ o ∈ os, o.takesNext = false) : occurrences (os.map Occurrence.text) = relink os := by
  have again (o : Occurrence) (same : o = Occurrence.ofArgument o.text o.next)
      (next : Option String) : Occurrence.ofArgument o.text next = o.before next := by
    rw [same]
    rfl
  induction os with
  | nil => rfl
  | cons o os ih =>
    obtain ⟨first, others⟩ := List.forall_mem_cons.mp read
    obtain ⟨leaves, rest⟩ := List.forall_mem_cons.mp alone
    have tail := ih others rest
    cases os with
    | nil => rw [relink, ← again o first]; rfl
    | cons p os =>
      have takes : (Occurrence.ofArgument o.text (some p.text)).takesNext = false := by
        rw [Occurrence.takesNext_ofArgument, ← Occurrence.takesNext_ofArgument o.text o.next, ← first]
        exact leaves
      rw [relink, ← tail, ← again o first]
      simp only [List.map_cons, occurrences, takes, Bool.false_eq_true, if_false]
      rfl

/-- Read once more, the arguments that go to the compiler are all at flag positions. -/
theorem occurrences_conserved (arguments : List String) :
    occurrences (conserved arguments) = relink (passing arguments) := by
  rw [← map_text_passing]
  apply occurrences_map_text
  · intro o member
    exact mem_occurrences_eq_ofArgument (List.mem_filter.mp member).1
  · intro o member
    exact Occurrence.takesNext_of_passes (List.mem_filter.mp member).2

namespace Settings

variable {arguments : List String} {s : Settings}

theorem passThrough_eq (accepted : ofArguments arguments = .ok s) :
    s.passThrough = conserved arguments := by
  have shows := ((ofArguments_eq_ok_iff arguments s).mp accepted).shows
  rw [shows.passThrough, ← map_text_passing]
  rfl

theorem exists_ofArguments_conserved (accepted : ofArguments arguments = .ok s) :
    ∃ again, ofArguments (conserved arguments) = .ok again := by
  have sound := (exists_steps_iff {} (occurrences arguments)).mp
    ⟨s, (ofArguments_eq_ok_iff arguments s).mp accepted⟩
  have still : ∀ o ∈ occurrences (conserved arguments), o.Sound := by
    intro o member
    rw [occurrences_conserved] at member
    obtain ⟨first, inside, next, rfl⟩ := mem_relink member
    obtain ⟨read, passes⟩ := List.mem_filter.mp inside
    exact (sound first read).before passes next
  obtain ⟨again, steps⟩ := (exists_steps_iff {} _).mpr still
  exact ⟨again, (ofArguments_eq_ok_iff _ again).mpr steps⟩

theorem passes_of_mem_occurrences_conserved {o : Occurrence}
    (member : o ∈ occurrences (conserved arguments)) : o.passes = true := by
  rw [occurrences_conserved] at member
  obtain ⟨first, inside, next, rfl⟩ := mem_relink member
  exact (List.mem_filter.mp inside).2

theorem conserved_conserved (arguments : List String) :
    conserved (conserved arguments) = conserved arguments := by
  have all : passing (conserved arguments) = occurrences (conserved arguments) :=
    List.filter_eq_self.mpr fun o member => passes_of_mem_occurrences_conserved member
  rw [← map_text_passing (conserved arguments), all, occurrences_conserved, map_text_relink,
    map_text_passing]

theorem checksOnly_eq (accepted : ofArguments arguments = .ok s) {again : Settings}
    (reread : ofArguments (conserved arguments) = .ok again) : again.checksOnly = s.checksOnly := by
  have first := ((ofArguments_eq_ok_iff arguments s).mp accepted).shows
  have second := ((ofArguments_eq_ok_iff _ again).mp reread).shows
  have steady (o : Occurrence) (next : Option String) : (o.before next).checksOnly? = o.checksOnly? :=
    rfl
  rw [first.checksOnly, second.checksOnly, occurrences_conserved, filterMap_relink _ steady,
    filterMap_passing _ fun o kept => Occurrence.checksOnly?_eq_none_of_not_passes kept]

end Settings

/-- The compiler gets, in order and unchanged, the arguments at flag positions whose flag is none of the
eight of the runner; the flags of the runner and their separate values are all that is left out. What it
gets is accepted again, goes through as a whole, asks for the same checks and sets nothing else than
what is observed. -/
theorem passThrough_conserves (arguments : List String) (s : Settings)
    (accepted : Settings.ofArguments arguments = .ok s) :
    s.passThrough = (arguments.zipIdx.filter fun x =>
        atFlagPosition arguments x.2 && !runnerFlags.contains (Argument.flagPart x.1)).map Prod.fst ∧
      ∃ again, Settings.ofArguments s.passThrough = .ok again ∧
        again.passThrough = s.passThrough ∧ again.checksOnly = s.checksOnly ∧
        again =
          { roots := again.roots
            jsOutputFile := again.jsOutputFile
            checksOnly := again.checksOnly
            createSourceMap := again.createSourceMap
            passThrough := again.passThrough } := by
  have through := Settings.passThrough_eq accepted
  obtain ⟨again, reread⟩ := Settings.exists_ofArguments_conserved accepted
  refine ⟨through, again, by rw [through]; exact reread, ?_, Settings.checksOnly_eq accepted reread, ?_⟩
  · rw [through, Settings.passThrough_eq reread, Settings.conserved_conserved]
  · have steps := (Settings.ofArguments_eq_ok_iff _ again).mp reread
    exact (steps.observing_eq fun o member => Settings.passes_of_mem_occurrences_conserved member).symm

/-- A flag of the runner swallows another one, and stands itself where a value was expected. -/
def swallowingArguments : List String :=
  ["--js_output_file", "--info", "--suppress", "out.js", "--suppress=const", "--checks_only", "--info=a=b"]

theorem swallowingArguments_pass_three :
    ∃ s, Settings.ofArguments swallowingArguments = .ok s ∧ s.infos = ["--suppress", "a=b"] ∧
      s.passThrough = ["--js_output_file", "out.js", "--checks_only"] ∧
      ∃ again, Settings.ofArguments s.passThrough = .ok again ∧ again.passThrough = s.passThrough ∧
        again.checksOnly = true ∧ again.infos = [] := by
  obtain ⟨s, accepted⟩ : ∃ s, Settings.ofArguments swallowingArguments = .ok s := ⟨_, rfl⟩
  obtain ⟨through, again, reread, passed, checks, rest⟩ :=
    passThrough_conserves swallowingArguments s accepted
  refine ⟨s, accepted, ?_, ?_, again, reread, passed, ?_, by rw [rest]⟩
  · cases accepted
    rfl
  · rw [through]
    decide
  · rw [checks]
    cases accepted
    rfl

end DiagnosticSieve
