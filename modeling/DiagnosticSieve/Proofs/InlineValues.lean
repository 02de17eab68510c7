import DiagnosticSieve.Proofs.FlagNames
import DiagnosticSieve.Proofs.PassThrough

/-!
Values inside an argument and behind it. Wherever a flag can stand, it can carry its value or be followed
by it: the settings come out the same, and the compiler gets what was written.
-/

namespace DiagnosticSieve

namespace Argument

theorem split_append_value (flag value : String) (dashed : "--".toList <+: flag.toList)
    (bare : '=' ∉ flag.toList) : split (flag ++ "=" ++ value) = (flag, some value) := by
  have text : (flag ++ "=" ++ value).toList = flag.toList ++ '=' :: value.toList := by simp
  have before : ∀ c ∈ flag.toList, decide (c ≠ '=') = true := by
    intro c member
    exact decide_eq_true fun same => bare (same ▸ member)
  have front : (flag.toList ++ '=' :: value.toList).takeWhile (· ≠ '=') = flag.toList := by
    rw [List.takeWhile_append_of_pos before, List.takeWhile_cons_of_neg (by simp), List.append_nil]
  have behind : (flag.toList ++ '=' :: value.toList).dropWhile (· ≠ '=') = '=' :: value.toList := by
    rw [List.dropWhile_append_of_pos before, List.dropWhile_cons_of_neg (by simp)]
  simp only [split, text, front, behind, List.isPrefixOf_iff_prefix.mpr dashed, if_true,
    String.ofList_toList]

theorem split_of_not_dashed (text : String) (plain : ¬ "--".toList <+: text.toList) :
    split text = (text, none) := by
  have front : ¬ "--".toList.isPrefixOf (text.toList.takeWhile (· ≠ '=')) = true := by
    intro dashed
    exact plain ((List.isPrefixOf_iff_prefix.mp dashed).trans (List.takeWhile_prefix _))
  rw [split]
  cases text.toList.dropWhile (· ≠ '=') with
  | nil => rfl
  | cons sign value => exact if_neg front

end Argument

namespace Flag

theorem dashed_of_name? {flag : Flag} {name : String} (named : flag.name? = some name) :
    "--".toList <+: name.toList ∧ '=' ∉ name.toList := by
  cases flag with
  | value f => cases f <;> cases named <;> decide
  | switch f => cases f <;> cases named <;> decide
  | observed f => cases f <;> cases named <;> decide
  | checksOnly => cases named; decide
  | other => cases named

theorem ofString_of_not_dashed (text : String) (plain : ¬ "--".toList <+: text.toList) :
    ofString text = .other := by
  cases named : (ofString text).name? with
  | none => cases read : ofString text <;> simp [name?, read] at named ⊢
  | some name =>
    have same : text = name := (ofString_eq_iff named text).mp rfl
    rw [same] at plain
    exact absurd (dashed_of_name? named).1 plain

end Flag

section

variable {flag : Flag} {name : String} (named : flag.name? = some name)
include named

theorem Occurrence.ofArgument_inline (value : String) (next : Option String) :
    ofArgument (name ++ "=" ++ value) next = ⟨name ++ "=" ++ value, name, some value, next⟩ := by
  obtain ⟨dashed, bare⟩ := Flag.dashed_of_name? named
  rw [ofArgument, Argument.split_append_value name value dashed bare]

theorem occurrences_inline (value : String) (rest : List String) :
    occurrences ((name ++ "=" ++ value) :: rest) =
      ⟨name ++ "=" ++ value, name, some value, rest.head?⟩ :: occurrences rest := by
  have leaves : separateFlags.contains (name ++ "=" ++ value) = false := by
    rw [← Occurrence.takesNext_ofArgument _ none, Occurrence.ofArgument_inline named,
      Occurrence.takesNext]
    split <;> rfl
  rw [occurrences_cons, Occurrence.ofArgument_inline named, leaves]
  rfl

end

theorem occurrences_of_not_dashed (text : String) (plain : ¬ "--".toList <+: text.toList)
    (rest : List String) :
    occurrences (text :: rest) = ⟨text, text, none, rest.head?⟩ :: occurrences rest := by
  have leaves : separateFlags.contains text = false := by
    rw [← Flag.takesValue_ofString, Flag.ofString_of_not_dashed text plain]
    rfl
  rw [occurrences_cons, Occurrence.ofArgument, Argument.split_of_not_dashed text plain, leaves]
  rfl

theorem occurrences_value (f : ValueFlag) (value : String) (rest : List String) :
    occurrences (f.name :: value :: rest) =
      ⟨f.name, f.name, none, some value⟩ :: occurrences rest := by
  have takes : separateFlags.contains f.name = true := by cases f <;> rfl
  rw [occurrences_cons, Occurrence.ofArgument, f.split_name, takes]
  rfl

theorem occurrences_observed (f : ObservedFlag) (rest : List String) :
    occurrences (f.name :: rest) = ⟨f.name, f.name, none, rest.head?⟩ :: occurrences rest := by
  have leaves : separateFlags.contains f.name = false := by cases f <;> rfl
  rw [occurrences_cons, Occurrence.ofArgument, f.split_name, leaves]
  rfl

namespace Settings

theorem apply_value (s : Settings) {o : Occurrence} {f : ValueFlag} (named : o.flagText = f.name)
    {value : String} (given : o.value? = some value) : s.apply o = .ok (s.setValue value f) := by
  have flag : o.flag = .value f := (Flag.ofString_eq_iff rfl _).mpr named
  exact (apply_eq_ok_iff ..).mpr (.value f flag value given)

theorem apply_observed (s : Settings) {o : Occurrence} {f : ObservedFlag} (named : o.flagText = f.name) :
    s.apply o = .ok ((s.setObserved o.value? f).pass o.text) := by
  have flag : o.flag = .observed f := (Flag.ofString_eq_iff rfl _).mpr named
  exact (apply_eq_ok_iff ..).mpr (.observed f flag)

theorem apply_of_not_dashed (s : Settings) {o : Occurrence}
    (plain : ¬ "--".toList <+: o.flagText.toList) : s.apply o = .ok (s.pass o.text) :=
  (apply_eq_ok_iff ..).mpr (.other (Flag.ofString_of_not_dashed _ plain))

theorem apply_ofArgument_congr (s : Settings) {text : String} (plain : text ∉ separateFlags)
    (closed : ∀ f : ObservedFlag, text ≠ f.name) (one other : Option String) :
    s.apply (.ofArgument text one) = s.apply (.ofArgument text other) := by
  cases inline : (Argument.split text).2 with
  | some value =>
    simp only [apply, Occurrence.flag, Occurrence.requireValue, Occurrence.value?,
      Occurrence.switchValue, Occurrence.ofArgument, inline, Option.some_or]
  | none =>
    have whole := Argument.split_fst_of_bare text inline
    cases read : Flag.ofString text with
    | value f => exact absurd ((mem_separateFlags_iff text).mpr ⟨f, read⟩) plain
    | observed f => exact absurd ((Flag.ofString_eq_iff rfl text).mp read) (closed f)
    | switch f => simp only [apply, Occurrence.flag, Occurrence.ofArgument, whole, read,
        Occurrence.switchValue]
    | checksOnly => simp only [apply, Occurrence.flag, Occurrence.ofArgument, whole, read,
        Occurrence.switchValue]
    | other => simp only [apply, Occurrence.flag, Occurrence.ofArgument, whole, read]

theorem foldlM_apply_map_congr {α : Type} (xs : List α) (one other : α → Occurrence)
    (same : ∀ x ∈ xs, ∀ s : Settings, s.apply (one x) = s.apply (other x)) (s : Settings) :
    (xs.map one).foldlM apply s = (xs.map other).foldlM apply s := by
  induction xs generalizing s with
  | nil => rfl
  | cons x xs ih =>
    rw [List.forall_mem_cons] at same
    rw [List.map_cons, List.map_cons, List.foldlM_cons, List.foldlM_cons, same.1]
    apply congrArg (s.apply (other x) >>= ·)
    funext t
    exact ih same.2 t

theorem ofArguments_append (front rest : List String)
    (start : atFlagPosition front front.length = true)
    (closed : ∀ f : ObservedFlag, front.getLast? ≠ some f.name) :
    ofArguments (front ++ rest) =
      ofArguments front >>= fun s => (occurrences rest).foldlM apply s := by
  rw [ofArguments, ofArguments, occurrences_append front rest start, List.foldlM_append,
    occurrences_eq front]
  apply congrArg (· >>= _)
  apply foldlM_apply_map_congr
  rintro ⟨text, i⟩ member s
  obtain ⟨here, stands⟩ := (mem_flagged_iff ..).mp member
  have inside : i < front.length := (List.getElem?_eq_some_iff.mp here).1
  rcases Nat.lt_or_ge (i + 1) front.length with earlier | last
  · rw [List.getElem?_append_left earlier]
  · have length : front.length = i + 1 := by omega
    have final : front.getLast? = some text := by
      rw [List.getLast?_eq_getElem?, length, Nat.add_sub_cancel, here]
    have plain : text ∉ separateFlags := by
      rw [length, atFlagPosition, stands, here] at start
      simpa using start
    apply apply_ofArgument_congr s plain
    intro f same
    exact closed f (final.trans (congrArg some same))

def after (s : Settings) (texts : List String) : Settings :=
  { s with passThrough := texts ++ s.passThrough }

theorem pass_after (s : Settings) (texts : List String) (text : String) :
    (s.after texts).pass text = (s.pass text).after texts := by
  simp only [pass, after, List.append_assoc]

theorem apply_after (s : Settings) (texts : List String) (o : Occurrence) :
    (s.after texts).apply o = (s.apply o).map (·.after texts) := by
  rw [apply, apply]
  cases o.flag with
  | value f => cases o.requireValue <;> cases f <;> rfl
  | switch f => cases o.switchValue <;> cases f <;> rfl
  | observed f =>
    have set : (s.after texts).setObserved o.value? f = (s.setObserved o.value? f).after texts := by
      cases f <;> rfl
    simp only [set, pass_after, Except.map]
  | checksOnly =>
    cases o.switchValue with
    | error e => rfl
    | ok on => exact congrArg Except.ok (pass_after { s with checksOnly := on } texts o.text)
  | other => exact congrArg Except.ok (pass_after s texts o.text)

theorem foldlM_apply_after (s : Settings) (texts : List String) (os : List Occurrence) :
    os.foldlM apply (s.after texts) = (os.foldlM apply s).map (·.after texts) := by
  induction os generalizing s with
  | nil => rfl
  | cons o os ih =>
    rw [List.foldlM_cons, List.foldlM_cons, apply_after]
    cases s.apply o with
    | error e => rfl
    | ok t => exact ih t

/-- Settings made on from others that only differ in what went to the compiler are both refused, or
still only differ in that. -/
theorem foldlM_apply_after_cases (s : Settings) (rest : List String) (nothing : s.passThrough = []) :
    (∃ e, ∀ texts, (occurrences rest).foldlM apply (s.after texts) = .error e) ∨
      ∃ t : Settings, ∀ texts, (occurrences rest).foldlM apply (s.after texts) =
        .ok { t with passThrough := texts ++ conserved rest } := by
  simp only [foldlM_apply_after]
  cases done : (occurrences rest).foldlM apply s with
  | error e => exact .inl ⟨e, fun texts => rfl⟩
  | ok t =>
    have through : t.passThrough = conserved rest := by
      have shows := ((foldlM_apply_eq_ok_iff s (occurrences rest) t).mp done).shows
      rw [shows.passThrough, nothing, ← map_text_passing]
      rfl
    refine .inr ⟨t, fun texts => ?_⟩
    rw [← through]
    rfl

theorem foldlM_apply_value (s : Settings) (f : ValueFlag) (value : String) (rest : List String) :
    (occurrences (f.name :: value :: rest)).foldlM apply s =
        (occurrences rest).foldlM apply (s.setValue value f) ∧
      (occurrences ((f.name ++ "=" ++ value) :: rest)).foldlM apply s =
        (occurrences rest).foldlM apply (s.setValue value f) := by
  constructor
  · rw [occurrences_value, List.foldlM_cons, apply_value s rfl rfl]
    rfl
  · have named : (Flag.value f).name? = some f.name := rfl
    rw [occurrences_inline named, List.foldlM_cons, apply_value s rfl rfl]
    rfl

def observingOnly (s : Settings) (value : String) (f : ObservedFlag) : Settings :=
  { s.setObserved (some value) f with passThrough := [] }

theorem pass_setObserved (s : Settings) (value text : String) (f : ObservedFlag) :
    (s.setObserved (some value) f).pass text =
      (s.observingOnly value f).after (s.passThrough ++ [text]) := by
  cases f <;> simp only [pass, setObserved, observingOnly, after, List.append_nil]

theorem pass_after_append (s : Settings) (nothing : s.passThrough = []) (texts : List String)
    (text : String) : (s.after texts).pass text = s.after (texts ++ [text]) := by
  simp only [pass, after, nothing, List.append_nil]

theorem foldlM_apply_observed (s : Settings) (f : ObservedFlag) (value : String)
    (plain : ¬ "--".toList <+: value.toList) (rest : List String) :
    (occurrences (f.name :: value :: rest)).foldlM apply s =
        (occurrences rest).foldlM apply
          ((s.observingOnly value f).after (s.passThrough ++ [f.name, value])) ∧
      (occurrences ((f.name ++ "=" ++ value) :: rest)).foldlM apply s =
        (occurrences rest).foldlM apply
          ((s.observingOnly value f).after (s.passThrough ++ [f.name ++ "=" ++ value])) := by
  constructor
  · have passed : ((s.setObserved (some value) f).pass f.name).pass value =
        (s.observingOnly value f).after (s.passThrough ++ [f.name, value]) := by
      rw [pass_setObserved, pass_after_append _ rfl, List.append_assoc]
      rfl
    rw [occurrences_observed, occurrences_of_not_dashed value plain, List.foldlM_cons,
      apply_observed s rfl, ← passed]
    exact List.foldlM_cons.trans (congrArg (· >>= _) (apply_of_not_dashed _ plain))
  · have named : (Flag.observed f).name? = some f.name := rfl
    rw [occurrences_inline named, List.foldlM_cons, apply_observed s rfl, ← pass_setObserved]
    rfl

end Settings

/-- Wherever a flag can stand, and unless the argument before it looks at it as its own value, a value
inside the argument and a value behind it mean the same. For the three flags of the runner that take a
value, whatever it is, the settings or the error are the same. For an observed flag, and a value that is
no flag itself, the error is the same, or the settings are the same but for what goes to the compiler,
which holds the arguments as they were written. -/
theorem inline_values_are_separate_values (front rest : List String) (value : String)
    (start : atFlagPosition front front.length = true)
    (closed : ∀ f : ObservedFlag, front.getLast? ≠ some f.name) :
    (∀ f : ValueFlag,
      Settings.ofArguments (front ++ f.name :: value :: rest) =
        Settings.ofArguments (front ++ (f.name ++ "=" ++ value) :: rest)) ∧
    ∀ f : ObservedFlag, ¬ "--".toList <+: value.toList →
      (∃ e, Settings.ofArguments (front ++ f.name :: value :: rest) = .error e ∧
        Settings.ofArguments (front ++ (f.name ++ "=" ++ value) :: rest) = .error e) ∨
      ∃ s : Settings, Settings.ofArguments (front ++ f.name :: value :: rest) =
          .ok { s with passThrough := conserved front ++ f.name :: value :: conserved rest } ∧
        Settings.ofArguments (front ++ (f.name ++ "=" ++ value) :: rest) =
          .ok { s with
            passThrough := conserved front ++ (f.name ++ "=" ++ value) :: conserved rest } := by
  simp only [Settings.ofArguments_append front _ start closed]
  cases before : Settings.ofArguments front with
  | error e => exact ⟨fun f => rfl, fun f plain => .inl ⟨e, rfl, rfl⟩⟩
  | ok s =>
    constructor
    · intro f
      obtain ⟨separate, inline⟩ := s.foldlM_apply_value f value rest
      exact separate.trans inline.symm
    · intro f plain
      obtain ⟨separate, inline⟩ := s.foldlM_apply_observed f value plain rest
      have through : s.passThrough = conserved front := Settings.passThrough_eq before
      rw [← through]
      rcases (s.observingOnly value f).foldlM_apply_after_cases rest rfl with
        ⟨e, refused⟩ | ⟨t, accepted⟩
      · exact .inl ⟨e, separate.trans (refused _), inline.trans (refused _)⟩
      · refine .inr ⟨t, separate.trans ?_, inline.trans ?_⟩
        · rw [accepted, List.append_assoc]
          rfl
        · rw [accepted, List.append_assoc]
          rfl

-- behind a bare observed flag the two are not the same, since that flag looks at what follows
example : (Settings.ofArguments ["--js_output_file", "--info", "a"]).toOption ≠
    (Settings.ofArguments ["--js_output_file", "--info=a"]).toOption := by decide

/-- The last argument looks like a flag, but is the value of the one before it. -/
def swallowedInfo : List String := ["--js_module_root", "--suppress", "--info"]

theorem swallowedInfo_goes_on :
    Settings.ofArguments (swallowedInfo ++ ["--info", "--suppress", "--checks_only"]) =
        Settings.ofArguments (swallowedInfo ++ ["--info=--suppress", "--checks_only"]) ∧
      ∃ s : Settings, s.jsOutputFile = some "a=b" ∧ s.infos = ["c"] ∧
        Settings.ofArguments (swallowedInfo ++ ["--js_output_file", "a=b", "--info=c"]) =
          .ok { s with passThrough := ["--js_module_root", "--js_output_file", "a=b"] } ∧
        Settings.ofArguments (swallowedInfo ++ ["--js_output_file=a=b", "--info=c"]) =
          .ok { s with passThrough := ["--js_module_root", "--js_output_file=a=b"] } := by
  have start : atFlagPosition swallowedInfo swallowedInfo.length = true := by decide
  have closed : ∀ f : ObservedFlag, swallowedInfo.getLast? ≠ some f.name := by
    intro f
    cases f <;> decide
  constructor
  · exact (inline_values_are_separate_values swallowedInfo ["--checks_only"] "--suppress" start closed).1
      .info
  · rcases (inline_values_are_separate_values swallowedInfo ["--info=c"] "a=b" start closed).2
      .jsOutputFile (by decide) with ⟨e, refused, _⟩ | ⟨s, separate, inline⟩
    · cases refused
    · have through : conserved swallowedInfo = ["--js_module_root"] := by decide
      have behind : conserved ["--info=c"] = [] := by decide
      rw [through, behind] at separate inline
      refine ⟨s, ?_, ?_, separate, inline⟩
      · exact (congrArg Settings.jsOutputFile (Except.ok.inj separate)).symm
      · exact (congrArg Settings.infos (Except.ok.inj separate)).symm

end DiagnosticSieve
