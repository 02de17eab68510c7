import DiagnosticSieve.Settings

/-!
Settings step by step. An argument list is accepted if each of its occurrences is sound on its own; what
the settings hold then can be told from the occurrences.
-/

namespace DiagnosticSieve

namespace Occurrence

inductive Sound (o : Occurrence) : Prop
  | value (f : ValueFlag) (flag : o.flag = .value f) (value : String) (given : o.value? = some value)
  | switch (f : SwitchFlag) (flag : o.flag = .switch f) (on : Bool) (given : o.switchValue = .ok on)
  | observed (f : ObservedFlag) (flag : o.flag = .observed f)
  | checksOnly (flag : o.flag = .checksOnly) (on : Bool) (given : o.switchValue = .ok on)
  | other (flag : o.flag = .other)

theorem requireValue_eq_ok_iff (o : Occurrence) (value : String) :
    o.requireValue = .ok value ↔ o.value? = some value := by
  rw [requireValue]
  cases o.value? <;> simp

def passes (o : Occurrence) : Bool :=
  match o.flag with
  | .value _ | .switch _ => false
  | _ => true

def checksOnly? (o : Occurrence) : Option Bool :=
  match o.flag, o.switchValue with
  | .checksOnly, .ok on => some on
  | _, _ => none

def observed? (f : ObservedFlag) (o : Occurrence) : Option String :=
  if o.flag = .observed f then o.value? else none

end Occurrence

namespace Settings

/-- What an accepted occurrence makes of settings. -/
inductive Step (s : Settings) (o : Occurrence) : Settings → Prop
  | value (f : ValueFlag) (flag : o.flag = .value f) (value : String) (given : o.value? = some value) :
      Step s o (s.setValue value f)
  | switch (f : SwitchFlag) (flag : o.flag = .switch f) (on : Bool) (given : o.switchValue = .ok on) :
      Step s o (s.setSwitch on f)
  | observed (f : ObservedFlag) (flag : o.flag = .observed f) :
      Step s o ((s.setObserved o.value? f).pass o.text)
  | checksOnly (flag : o.flag = .checksOnly) (on : Bool) (given : o.switchValue = .ok on) :
      Step s o ({ s with checksOnly := on }.pass o.text)
  | other (flag : o.flag = .other) : Step s o (s.pass o.text)

theorem bind_pure_eq_ok_iff {ε α β : Type} (x : Except ε α) (f : α → β) (b : β) :
    (x >>= fun a => pure (f a)) = .ok b ↔ ∃ a, x = .ok a ∧ f a = b := by
  cases x <;> simp [bind, Except.bind, pure, Except.pure]

theorem bind_pure_eq_error_iff {ε α β : Type} (x : Except ε α) (f : α → β) (e : ε) :
    (x >>= fun a => pure (f a)) = .error e ↔ x = .error e := by
  cases x <;> simp [bind, Except.bind, pure, Except.pure]

theorem apply_eq_ok_iff (s : Settings) (o : Occurrence) (t : Settings) :
    s.apply o = .ok t ↔ s.Step o t := by
  constructor
  · intro done
    rw [apply] at done
    cases flag : o.flag with
    | value f =>
      simp only [flag, bind_pure_eq_ok_iff, Occurrence.requireValue_eq_ok_iff] at done
      rcases done with ⟨value, given, rfl⟩
      exact .value f flag value given
    | switch f =>
      simp only [flag, bind_pure_eq_ok_iff] at done
      rcases done with ⟨on, given, rfl⟩
      exact .switch f flag on given
    | observed f =>
      simp only [flag] at done
      cases done
      exact .observed f flag
    | checksOnly =>
      simp only [flag, bind_pure_eq_ok_iff] at done
      rcases done with ⟨on, given, rfl⟩
      exact .checksOnly flag on given
    | other =>
      simp only [flag] at done
      cases done
      exact .other flag
  · intro step
    cases step with
    | value f flag value given => simp only [apply, flag, Occurrence.requireValue, given]; rfl
    | switch f flag on given => simp only [apply, flag, given]; rfl
    | observed f flag => simp only [apply, flag]
    | checksOnly flag on given => simp only [apply, flag, given]; rfl
    | other flag => simp only [apply, flag]

theorem Step.sound {s t : Settings} {o : Occurrence} (step : s.Step o t) : o.Sound := by
  cases step with
  | value f flag value given => exact .value f flag value given
  | switch f flag on given => exact .switch f flag on given
  | observed f flag => exact .observed f flag
  | checksOnly flag on given => exact .checksOnly flag on given
  | other flag => exact .other flag

theorem exists_step {o : Occurrence} (sound : o.Sound) (s : Settings) : ∃ t, s.Step o t := by
  cases sound with
  | value f flag value given => exact ⟨_, .value f flag value given⟩
  | switch f flag on given => exact ⟨_, .switch f flag on given⟩
  | observed f flag => exact ⟨_, .observed f flag⟩
  | checksOnly flag on given => exact ⟨_, .checksOnly flag on given⟩
  | other flag => exact ⟨_, .other flag⟩

inductive Steps : Settings → List Occurrence → Settings → Prop
  | nil (s : Settings) : Steps s [] s
  | cons {s t u : Settings} {o : Occurrence} {os : List Occurrence} (first : s.Step o t)
      (rest : Steps t os u) : Steps s (o :: os) u

theorem foldlM_apply_eq_ok_iff (s : Settings) (os : List Occurrence) (u : Settings) :
    os.foldlM apply s = .ok u ↔ s.Steps os u := by
  induction os generalizing s with
  | nil =>
    constructor
    · intro done
      cases done
      exact .nil _
    · intro steps
      cases steps
      rfl
  | cons o os ih =>
    rw [List.foldlM_cons]
    constructor
    · intro done
      cases head : s.apply o with
      | error e =>
        rw [head] at done
        cases done
      | ok t =>
        rw [head] at done
        exact .cons ((apply_eq_ok_iff s o t).mp head) ((ih t).mp done)
    · intro steps
      cases steps with
      | cons first rest =>
        rw [(apply_eq_ok_iff ..).mpr first]
        exact (ih _).mpr rest

theorem ofArguments_eq_ok_iff (arguments : List String) (s : Settings) :
    ofArguments arguments = .ok s ↔ Steps {} (occurrences arguments) s :=
  foldlM_apply_eq_ok_iff {} (occurrences arguments) s

theorem exists_steps_iff (s : Settings) (os : List Occurrence) :
    (∃ u, s.Steps os u) ↔ ∀ o ∈ os, o.Sound := by
  constructor
  · intro ⟨u, steps⟩
    induction steps with
    | nil => simp
    | cons first _ ih => exact List.forall_mem_cons.mpr ⟨first.sound, ih⟩
  · intro sound
    induction os generalizing s with
    | nil => exact ⟨s, .nil s⟩
    | cons o os ih =>
      obtain ⟨own, others⟩ := List.forall_mem_cons.mp sound
      obtain ⟨t, first⟩ := exists_step own s
      obtain ⟨u, rest⟩ := ih t others
      exact ⟨u, .cons first rest⟩

/-- What settings hold for the compiler, in terms of the occurrences behind the settings that they
started from. -/
structure Shows (s u : Settings) (os : List Occurrence) : Prop where
  passThrough : u.passThrough = s.passThrough ++ (os.filter Occurrence.passes).map Occurrence.text
  roots : u.roots = s.roots ++ os.filterMap (Occurrence.observed? .jsModuleRoot)
  jsOutputFile : u.jsOutputFile =
    (os.filterMap (Occurrence.observed? .jsOutputFile)).getLast?.or s.jsOutputFile
  createSourceMap : u.createSourceMap =
    (os.filterMap (Occurrence.observed? .createSourceMap)).getLast?.or s.createSourceMap
  checksOnly : u.checksOnly = (os.filterMap Occurrence.checksOnly?).getLast?.getD s.checksOnly

theorem Step.shows {s t : Settings} {o : Occurrence} (step : s.Step o t) : Shows s t [o] := by
  cases step with
  | value f flag value given =>
    cases f <;> constructor <;>
      simp [setValue, Occurrence.passes, Occurrence.observed?, Occurrence.checksOnly?, flag]
  | switch f flag on given =>
    cases f <;> constructor <;>
      simp [setSwitch, Occurrence.passes, Occurrence.observed?, Occurrence.checksOnly?, flag]
  | observed f flag =>
    cases f <;> cases given : o.value? <;> constructor <;>
      simp [setObserved, pass, Occurrence.passes, Occurrence.observed?, Occurrence.checksOnly?, flag, given]
  | checksOnly flag on given =>
    constructor <;>
      simp [pass, Occurrence.passes, Occurrence.observed?, Occurrence.checksOnly?, flag, given]
  | other flag =>
    constructor <;> simp [pass, Occurrence.passes, Occurrence.observed?, Occurrence.checksOnly?, flag]

theorem Shows.append {s t u : Settings} {front back : List Occurrence} (first : Shows s t front)
    (rest : Shows t u back) : Shows s u (front ++ back) := by
  constructor
  · rw [rest.passThrough, first.passThrough, List.filter_append, List.map_append, List.append_assoc]
  · rw [rest.roots, first.roots, List.filterMap_append, List.append_assoc]
  · rw [rest.jsOutputFile, first.jsOutputFile, List.filterMap_append, List.getLast?_append,
      Option.or_assoc]
  · rw [rest.createSourceMap, first.createSourceMap, List.filterMap_append, List.getLast?_append,
      Option.or_assoc]
  · rw [rest.checksOnly, first.checksOnly, List.filterMap_append, List.getLast?_append, Option.getD_or]

theorem Steps.shows {s u : Settings} {os : List Occurrence} (steps : s.Steps os u) : Shows s u os := by
  induction steps with
  | nil => constructor <;> simp
  | cons first _ ih => exact first.shows.append ih

def observing (s t : Settings) : Settings :=
  { s with
    roots := t.roots
    jsOutputFile := t.jsOutputFile
    checksOnly := t.checksOnly
    createSourceMap := t.createSourceMap
    passThrough := t.passThrough }

theorem Step.observing_eq {s t : Settings} {o : Occurrence} (step : s.Step o t)
    (passes : o.passes = true) : s.observing t = t := by
  cases step with
  | value f flag value given => simp [Occurrence.passes, flag] at passes
  | switch f flag on given => simp [Occurrence.passes, flag] at passes
  | observed f flag => cases f <;> rfl
  | checksOnly flag on given => rfl
  | other flag => rfl

theorem Steps.observing_eq {s u : Settings} {os : List Occurrence} (steps : s.Steps os u)
    (passes : ∀ o ∈ os, o.passes = true) : s.observing u = u := by
  induction steps with
  | nil => rfl
  | cons first rest ih =>
    obtain ⟨head, tail⟩ := List.forall_mem_cons.mp passes
    rw [← ih tail, ← first.observing_eq head]
    rfl

end Settings

end DiagnosticSieve
