import DiagnosticSieve.Proofs.FlagNames
import DiagnosticSieve.Proofs.SettingsSteps

namespace DiagnosticSieve

namespace Occurrence

inductive Refused (o : Occurrence) : SettingsError → Prop
  | missing (f : ValueFlag) (flag : o.flag = .value f) (absent : o.value? = none) :
      Refused o (.missingValue o.flagText)
  | switch (f : SwitchFlag) (flag : o.flag = .switch f) (e : SettingsError)
      (given : o.switchValue = .error e) : Refused o e
  | checksOnly (flag : o.flag = .checksOnly) (e : SettingsError) (given : o.switchValue = .error e) :
      Refused o e

theorem requireValue_eq_error_iff (o : Occurrence) (e : SettingsError) :
    o.requireValue = .error e ↔ o.value? = none ∧ e = .missingValue o.flagText := by
  rw [requireValue]
  cases o.value? <;> simp [eq_comm]

theorem switchValue_eq_error_iff (o : Occurrence) (e : SettingsError) :
    o.switchValue = .error e ↔
      ∃ value, o.inlineValue = some value ∧ value ≠ "true" ∧ value ≠ "false" ∧
        e = .invalidValue o.flagText value := by
  rw [switchValue]
  cases o.inlineValue with
  | none => simp
  | some value =>
    by_cases yes : value = "true"
    · simp [yes]
    · by_cases no : value = "false"
      · simp [no]
      · simp [yes, no, eq_comm]

end Occurrence

namespace Settings

theorem apply_eq_error_iff (s : Settings) (o : Occurrence) (e : SettingsError) :
    s.apply o = .error e ↔ o.Refused e := by
  constructor
  · intro refused
    rw [apply] at refused
    cases flag : o.flag with
    | value f =>
      simp only [flag, bind_pure_eq_error_iff, Occurrence.requireValue_eq_error_iff] at refused
      rw [refused.2]
      exact .missing f flag refused.1
    | switch f =>
      simp only [flag, bind_pure_eq_error_iff] at refused
      exact .switch f flag e refused
    | checksOnly =>
      simp only [flag, bind_pure_eq_error_iff] at refused
      exact .checksOnly flag e refused
    | observed f | other =>
      simp only [flag] at refused
      cases refused
  · intro refused
    rw [apply]
    cases refused with
    | missing f flag absent =>
      simp only [flag, bind_pure_eq_error_iff]
      exact (o.requireValue_eq_error_iff _).mpr ⟨absent, rfl⟩
    | switch f flag e given =>
      simp only [flag, bind_pure_eq_error_iff]
      exact given
    | checksOnly flag e given =>
      simp only [flag, bind_pure_eq_error_iff]
      exact given

end Settings

theorem Occurrence.sound_iff_not_refused (o : Occurrence) : o.Sound ↔ ∀ e, ¬ o.Refused e := by
  have accepted : o.Sound ↔ ∃ t, ({} : Settings).apply o = .ok t := by
    constructor
    · intro sound
      rcases Settings.exists_step sound {} with ⟨t, step⟩
      exact ⟨t, (Settings.apply_eq_ok_iff ..).mpr step⟩
    · intro ⟨t, done⟩
      exact ((Settings.apply_eq_ok_iff ..).mp done).sound
  simp only [accepted, ← Settings.apply_eq_error_iff {} o]
  cases ({} : Settings).apply o <;> simp

namespace Settings

/-- A list of occurrences is refused for the first one that is, all before it being sound. -/
theorem foldlM_apply_eq_error_iff (s : Settings) (os : List Occurrence) (e : SettingsError) :
    os.foldlM apply s = .error e ↔
      ∃ before o behind, os = before ++ o :: behind ∧ (∀ p ∈ before, p.Sound) ∧ o.Refused e := by
  induction os generalizing s with
  | nil =>
    constructor
    · intro refused
      cases refused
    · intro ⟨before, o, behind, parts, _⟩
      cases before <;> cases parts
  | cons o os ih =>
    rw [List.foldlM_cons]
    cases head : s.apply o with
    | error cause =>
      have refused := (apply_eq_error_iff s o cause).mp head
      constructor
      · intro same
        cases same
        exact ⟨[], o, os, rfl, by simp, refused⟩
      · intro ⟨before, p, behind, parts, sound, wrong⟩
        cases before with
        | nil =>
          cases parts
          exact head.symm.trans ((apply_eq_error_iff s o e).mpr wrong)
        | cons first before =>
          -- The first occurrence would have to be both sound and refused.
          cases parts
          exact absurd refused (o.sound_iff_not_refused.mp (sound o List.mem_cons_self) cause)
    | ok t =>
      have step := (apply_eq_ok_iff s o t).mp head
      refine (ih t).trans ?_
      constructor
      · intro ⟨before, p, behind, parts, sound, wrong⟩
        refine ⟨o :: before, p, behind, by rw [parts]; rfl, ?_, wrong⟩
        exact List.forall_mem_cons.mpr ⟨step.sound, sound⟩
      · intro ⟨before, p, behind, parts, sound, wrong⟩
        cases before with
        | nil =>
          cases parts
          exact absurd wrong (o.sound_iff_not_refused.mp step.sound e)
        | cons first before =>
          cases parts
          exact ⟨before, p, behind, rfl, fun q member => sound q (List.mem_cons_of_mem o member), wrong⟩

end Settings

/-- The argument at a place is out of order: a boolean flag with a value other than the two, or the last
argument if that is a flag without its value. -/
inductive FaultAt (arguments : List String) (i : Nat) : SettingsError → Prop
  | invalid (text value : String) (here : arguments[i]? = some text)
      (boolean : Argument.flagPart text ∈ booleanFlags) (inline : (Argument.split text).2 = some value)
      (mixed : value ≠ "true" ∧ value ≠ "false") :
      FaultAt arguments i (.invalidValue (Argument.flagPart text) value)
  | missing (text : String) (here : arguments[i]? = some text) (bare : text ∈ separateFlags)
      (last : i + 1 = arguments.length) : FaultAt arguments i (.missingValue text)

def FirstFault (arguments : List String) (e : SettingsError) : Prop :=
  ∃ i, atFlagPosition arguments i = true ∧ FaultAt arguments i e ∧
    ∀ j < i, atFlagPosition arguments j = true → ∀ other, ¬ FaultAt arguments j other

theorem getElem?_succ_eq_none_iff {arguments : List String} {i : Nat} {text : String}
    (here : arguments[i]? = some text) : arguments[i + 1]? = none ↔ i + 1 = arguments.length := by
  have inside : i < arguments.length := (List.getElem?_eq_some_iff.mp here).1
  rw [List.getElem?_eq_none_iff]
  omega

theorem refused_iff_faultAt {arguments : List String} {i : Nat} {text : String}
    (here : arguments[i]? = some text) (e : SettingsError) :
    (Occurrence.ofArgument text arguments[i + 1]?).Refused e ↔ FaultAt arguments i e := by
  have part : (Occurrence.ofArgument text arguments[i + 1]?).flagText = Argument.flagPart text :=
    Argument.split_fst text
  have invalid (boolean : Argument.flagPart text ∈ booleanFlags) (e : SettingsError)
      (given : (Occurrence.ofArgument text arguments[i + 1]?).switchValue = .error e) :
      FaultAt arguments i e := by
    obtain ⟨value, inline, noTrue, noFalse, rfl⟩ := (Occurrence.switchValue_eq_error_iff _ e).mp given
    rw [part]
    exact .invalid text value here boolean inline ⟨noTrue, noFalse⟩
  constructor
  · intro refused
    cases refused with
    | missing f flag absent =>
      obtain ⟨bare, behind⟩ := Option.or_eq_none_iff.mp absent
      have whole : (Argument.split text).1 = text := Argument.split_fst_of_bare text bare
      have separate : text ∈ separateFlags := (mem_separateFlags_iff text).mpr ⟨f, whole ▸ flag⟩
      have fault := FaultAt.missing text here separate ((getElem?_succ_eq_none_iff here).mp behind)
      rw [← whole] at fault
      exact fault
    | switch f flag e given =>
      exact invalid ((mem_booleanFlags_iff _).mpr (.inl ⟨f, part ▸ flag⟩)) e given
    | checksOnly flag e given =>
      exact invalid ((mem_booleanFlags_iff _).mpr (.inr (part ▸ flag))) e given
  · intro fault
    cases fault with
    | invalid other value found boolean inline mixed =>
      cases here.symm.trans found
      have given : (Occurrence.ofArgument text arguments[i + 1]?).switchValue =
          .error (.invalidValue (Argument.flagPart text) value) :=
        (Occurrence.switchValue_eq_error_iff _ _).mpr ⟨value, inline, mixed.1, mixed.2, by rw [part]⟩
      rcases (mem_booleanFlags_iff _).mp boolean with ⟨f, switch⟩ | checks
      · exact .switch f (by rw [Occurrence.flag, part, switch]) _ given
      · exact .checksOnly (by rw [Occurrence.flag, part, checks]) _ given
    | missing other found bare last =>
      cases here.symm.trans found
      rcases (mem_separateFlags_iff text).mp bare with ⟨f, named⟩
      rcases (Flag.ofString_eq_iff rfl text).mp named with rfl
      have behind := (getElem?_succ_eq_none_iff here).mpr last
      have read : Occurrence.ofArgument f.name arguments[i + 1]? = ⟨f.name, f.name, none, none⟩ := by
        rw [Occurrence.ofArgument, f.split_name, behind]
      rw [read]
      exact .missing f named rfl

theorem pairwise_flagged (arguments : List String) :
    (flagged arguments).Pairwise fun x y => x.2 < y.2 := by
  have places : arguments.zipIdx.Pairwise fun x y => x.2 < y.2 := by
    rw [← List.pairwise_map (f := Prod.snd), List.zipIdx_map_snd]
    exact List.pairwise_lt_range'
  exact places.sublist List.filter_sublist

theorem mem_before_iff {arguments : List String} {front rest : List (String × Nat)}
    {x : String × Nat} (split : flagged arguments = front ++ x :: rest) (y : String × Nat) :
    y ∈ front ↔ y ∈ flagged arguments ∧ y.2 < x.2 := by
  have order := pairwise_flagged arguments
  rw [split, List.pairwise_append, List.pairwise_cons] at order
  obtain ⟨_, ⟨behind, _⟩, before⟩ := order
  constructor
  · intro member
    exact ⟨by simp [split, member], before y member x List.mem_cons_self⟩
  · intro ⟨member, earlier⟩
    rw [split, List.mem_append, List.mem_cons] at member
    rcases member with inside | rfl | later
    · exact inside
    · omega
    · have := behind y later
      omega

theorem FaultAt.exists_getElem? {arguments : List String} {i : Nat} {e : SettingsError}
    (fault : FaultAt arguments i e) : ∃ text, arguments[i]? = some text := by
  cases fault with
  | invalid text value here => exact ⟨text, here⟩
  | missing text here => exact ⟨text, here⟩

theorem FaultAt.message_eq {arguments : List String} {i : Nat} {e : SettingsError}
    (fault : FaultAt arguments i e) :
    ∃ text, arguments[i]? = some text ∧
      (e.message = "Missing value for " ++ text ∨
        ∃ value, (Argument.split text).2 = some value ∧
          e.message = "Invalid value for " ++ Argument.flagPart text ++ ": " ++ value) := by
  cases fault with
  | invalid text value here _ inline => exact ⟨text, here, .inr ⟨value, inline, rfl⟩⟩
  | missing text here => exact ⟨text, here, .inl rfl⟩

theorem sound_iff_no_fault {arguments : List String} {i : Nat} {text : String}
    (here : arguments[i]? = some text) :
    (Occurrence.ofArgument text arguments[i + 1]?).Sound ↔ ∀ e, ¬ FaultAt arguments i e := by
  simp only [Occurrence.sound_iff_not_refused, refused_iff_faultAt here]

theorem ofArguments_eq_error_iff (arguments : List String) (e : SettingsError) :
    Settings.ofArguments arguments = .error e ↔ FirstFault arguments e := by
  rw [Settings.ofArguments, Settings.foldlM_apply_eq_error_iff, occurrences_eq]
  constructor
  · intro ⟨before, o, behind, parts, sound, refused⟩
    obtain ⟨front, rest, split, rfl, tail⟩ := List.map_eq_append_iff.mp parts
    obtain ⟨⟨text, i⟩, others, rfl, rfl, rfl⟩ := List.map_eq_cons_iff.mp tail
    have member : (text, i) ∈ flagged arguments := by simp [split]
    obtain ⟨here, start⟩ := (mem_flagged_iff ..).mp member
    refine ⟨i, start, (refused_iff_faultAt here e).mp refused, ?_⟩
    intro j earlier startToo other fault
    obtain ⟨word, there⟩ := fault.exists_getElem?
    have inside : (word, j) ∈ front :=
      (mem_before_iff split _).mpr ⟨(mem_flagged_iff ..).mpr ⟨there, startToo⟩, earlier⟩
    have fine := sound _ (List.mem_map_of_mem inside)
    exact (sound_iff_no_fault there).mp fine other fault
  · intro ⟨i, start, fault, first⟩
    obtain ⟨text, here⟩ := fault.exists_getElem?
    obtain ⟨front, rest, split⟩ := List.append_of_mem ((mem_flagged_iff ..).mpr ⟨here, start⟩)
    refine ⟨_, _, _, by rw [split, List.map_append, List.map_cons], ?_, (refused_iff_faultAt here e).mpr fault⟩
    intro p member
    obtain ⟨⟨word, j⟩, inside, rfl⟩ := List.mem_map.mp member
    obtain ⟨among, earlier⟩ := (mem_before_iff split _).mp inside
    obtain ⟨there, startToo⟩ := (mem_flagged_iff ..).mp among
    exact (sound_iff_no_fault there).mpr (first j earlier startToo)

theorem exists_ofArguments_eq_error_iff (arguments : List String) :
    (∃ e, Settings.ofArguments arguments = .error e) ↔
      ∃ i, atFlagPosition arguments i = true ∧ ∃ e, FaultAt arguments i e := by
  constructor
  · intro ⟨e, refused⟩
    obtain ⟨i, start, fault, _⟩ := (ofArguments_eq_error_iff arguments e).mp refused
    exact ⟨i, start, e, fault⟩
  · intro ⟨i, start, e, fault⟩
    cases read : Settings.ofArguments arguments with
    | error cause => exact ⟨cause, rfl⟩
    | ok s =>
      have sound := (Settings.exists_steps_iff {} (occurrences arguments)).mp
        ⟨s, (Settings.ofArguments_eq_ok_iff arguments s).mp read⟩
      obtain ⟨text, here⟩ := fault.exists_getElem?
      have member : Occurrence.ofArgument text arguments[i + 1]? ∈ occurrences arguments := by
        rw [occurrences_eq]
        exact List.mem_map_of_mem ((mem_flagged_iff ..).mpr ⟨here, start⟩)
      exact absurd fault ((sound_iff_no_fault here).mp (sound _ member) e)

end DiagnosticSieve
