import DiagnosticSieve.Proofs.RunFaults
import DiagnosticSieve.Proofs.RunOutputs
import DiagnosticSieve.Proofs.RunSifting
import DiagnosticSieve.Proofs.RunVerdict
import DiagnosticSieve.Proofs.SessionLockstep

/-!
Presentation of runs. Whether warnings are expected, where the surfaced diagnostics are written and
whether texts are coloured changes neither the result of a run nor any other file; and where failures or
warnings are expected, a run shows at most one line.
-/

namespace DiagnosticSieve

namespace Outcome

variable (o : Outcome) {base : FileTree} {hidden : FileTree.Location → Prop}

theorem emptyOutput_lockstep (seen : ∀ place, base.Denotes o.jsOutputFile place → ¬ hidden place) :
    Session.Lockstep (base.AgreeOff hidden) o.emptyOutput o.emptyOutput := by
  rw [emptyOutput]
  cases given : o.jsOutputFile with
  | none => exact .pure ()
  | some path =>
    simp only
    split
    · apply Session.Lockstep.bind (.note _ _)
      intro _
      apply Session.Lockstep.write
      intro place located
      exact seen place ⟨path, given, located⟩
    · exact .pure ()

theorem ensureSourceMap_lockstep (seen : ∀ place, base.Denotes o.sourceMap place → ¬ hidden place) :
    Session.Lockstep (base.AgreeOff hidden) o.ensureSourceMap o.ensureSourceMap := by
  rw [ensureSourceMap]
  cases given : o.sourceMap with
  | none => exact .pure ()
  | some path =>
    have free (place : FileTree.Location) (located : base.locate path = .ok place) : ¬ hidden place :=
      seen place ⟨path, given, located⟩
    simp only
    apply Session.Lockstep.bind (.pathExists free)
    intro present
    cases present with
    | true => exact .pure ()
    | false =>
      apply Session.Lockstep.bind (.note _ _)
      intro _
      exact .write free _

end Outcome

/-- Two compilers that do the same with the given arguments and files. -/
structure Backend.Alike (one other : Backend) (arguments : List String) (files : FileTree) : Prop where
  shouldRun : other.shouldRun arguments = one.shouldRun arguments
  compile : other.compile arguments files = one.compile arguments files

theorem Compiled.ofSettings_congr {one other : Backend} {s t : Settings} {files : FileTree}
    (alike : one.Alike other s.passThrough files) (same : t.passThrough = s.passThrough)
    (sieve : Sieve) : ofSettings t other sieve files = ofSettings s one sieve files := by
  rw [ofSettings, ofSettings, same, alike.shouldRun]
  cases one.shouldRun s.passThrough with
  | false => rfl
  | true => exact congrArg (fun c => ofCompilation sieve c files) alike.compile

namespace Settings

def presenting (s : Settings) (expectWarnings : Bool) (outputErrors : Option String) : Settings :=
  { s with expectWarnings, outputErrors }

structure CapturesApart (s : Settings) (t : FileTree) : Prop where
  output : t.Apart s.outputErrors s.jsOutputFile
  sourceMap : t.Apart s.outputErrors s.createSourceMap

variable (s : Settings) (expectWarnings : Bool) (outputErrors : Option String)

theorem sifted_presenting {one other : Backend} {files : FileTree}
    (alike : one.Alike other s.passThrough files) :
    (s.presenting expectWarnings outputErrors).sifted other files = s.sifted one files := by
  apply Session.bind_congr
  intro policy
  exact Compiled.ofSettings_congr alike rfl (s.freshSieve policy)

end Settings

namespace Compiled

variable (c : Compiled) (s : Settings) (expectWarnings : Bool) (outputErrors : Option String)
  (colorize recolorize : Bool) {base : FileTree}

theorem capture_lockstep {hidden : FileTree.Location → Prop} (t : Settings)
    (hides : ∀ place, base.Denotes s.outputErrors place → hidden place)
    (hidesToo : ∀ place, base.Denotes t.outputErrors place → hidden place) :
    Session.Lockstep (base.AgreeOff hidden) (c.capture s) (c.capture t) := by
  intro one other _ _ left right agree written writtenToo
  have halfway := agree.replaced (c.replaced_of_capture s written) hides
  exact ⟨rfl, (halfway.symm.replaced (c.replaced_of_capture t writtenToo) hidesToo).symm⟩

/-- Both conclusions write the same to all other places, and decide the same. -/
theorem conclude_lockstep (apart : s.CapturesApart base)
    (apartToo : (s.presenting expectWarnings outputErrors).CapturesApart base) :
    Session.Lockstep
      (base.AgreeOff fun place => base.Denotes s.outputErrors place ∨ base.Denotes outputErrors place)
      (c.conclude s colorize) (c.conclude (s.presenting expectWarnings outputErrors) recolorize) := by
  have output := (c.outcome s).emptyOutput_lockstep fun _ => apart.output.neither apartToo.output
  have sourceMap := (c.outcome s).ensureSourceMap_lockstep fun _ =>
    apart.sourceMap.neither apartToo.sourceMap
  have finalized := output.bind fun _ => sourceMap.bind fun _ => .pure (c.outcome s).decide
  rw [conclude_eq, conclude_eq]
  apply Session.Lockstep.bind (.note _ _)
  intro _
  apply Session.Lockstep.bind (.emit_if _ _ _ _)
  intro _
  apply Session.Lockstep.bind
  case first => exact c.capture_lockstep s (s.presenting ..) (fun _ => .inl) (fun _ => .inr)
  intro _
  apply Session.Lockstep.bind finalized
  intro decision
  apply Session.Lockstep.bind (.emit_if _ _ _ _)
  intro _
  exact .pure _

instance decidableFails : Decidable c.Fails :=
  inferInstanceAs (Decidable (c.status ≠ 0 ∨ ∃ x ∈ c.sieve.surfaced, x.severity = .error))

def noticeLine : String := paint Decision.missingFailureNotice none colorize ++ "\n"

theorem errorText_notice (decision : Decision) (code : Nat) (files : FileTree) :
    ((notice decision colorize >>= fun _ => pure code : Session WriteError Nat) files).errorText =
      if decision.missingFailure then noticeLine colorize else "" := by
  cases missing : decision.missingFailure with
  | false =>
    simp only [notice, missing, Bool.false_eq_true, if_false]
    rfl
  | true =>
    simp only [notice, missing, if_true]
    exact String.empty_append

def toldText : String :=
  if (c.outcome s).showsDiagnostics then String.join ((c.shown colorize).map Event.shownText) else ""

theorem tell_apply (files : FileTree) :
    (c.tell s colorize files).result = .ok () ∧
      (c.tell s colorize files).errorText = c.toldText s colorize := by
  rw [tell, toldText]
  cases (c.outcome s).showsDiagnostics with
  | false => exact ⟨rfl, rfl⟩
  | true => exact ⟨rfl, Progress.errorText_eq _⟩

theorem errorText_conclude {files : FileTree} {code : Nat}
    (finished : (c.conclude s colorize files).result = .ok code) :
    (c.conclude s colorize files).errorText =
      c.toldText s colorize ++
        if (c.outcome s).decide.missingFailure then noticeLine colorize else "" := by
  have logged (r : LogRecord) : (Event.record r).shownText = "" := rfl
  have noted : (.note c.sieve.countsRecord : Session WriteError Unit).Mute := note_emits logged _
  have captured : (c.capture s).Mute := c.capture_emits s
  have finalized : (c.outcome s).finalize.Mute := finalize_emits logged _
  rw [conclude_eq] at finished ⊢
  rcases noted.errorText_bind finished with ⟨_, _, finished, text⟩
  rw [text]
  rcases c.tell_apply s colorize (Session.note c.sieve.countsRecord files).files with ⟨done, told⟩
  rw [Session.errorText_bind done, told]
  rcases (Session.result_bind_eq_ok_iff ..).mp finished with ⟨_, _, finished⟩
  rcases captured.errorText_bind finished with ⟨_, _, finished, text⟩
  rw [text]
  rcases finalized.errorText_bind finished with ⟨decision, decided, finished, text⟩
  rw [text, (c.outcome s).finalize_decision _ decision decided]
  exact congrArg _ (errorText_notice colorize _ _ _)

theorem toldText_of_expecting (expecting : s.expectFailure = true ∨ s.expectWarnings = true) :
    c.toldText s colorize = "" := by
  apply if_neg
  rcases expecting with failure | warnings
  · simp [Outcome.showsDiagnostics, outcome, Outcome.ofSettings, failure]
  · simp [Outcome.showsDiagnostics, outcome, Outcome.ofSettings, warnings]

theorem missingFailure_iff
    (agrees : c.sieve.hasErrors = true ↔ ∃ x ∈ c.sieve.surfaced, x.severity = .error) :
    (c.outcome s).decide.missingFailure = true ↔ s.expectFailure = true ∧ ¬ c.Fails := by
  rw [← c.failed_iff s agrees]
  simp only [Outcome.decide, outcome, Outcome.ofSettings, Bool.and_eq_true, Bool.not_eq_true',
    Bool.not_eq_true, and_comm]

end Compiled

namespace Settings

variable (s : Settings) {compiler : Backend} {files : FileTree} {c : Compiled}

theorem hasErrors_of_sifted (done : (s.sifted compiler files).result = .ok c) :
    c.sieve.hasErrors = true ↔ ∃ x ∈ c.sieve.surfaced, x.severity = .error := by
  rcases (s.sifted_eq_ok_iff compiler files c).mp done with ⟨policy, _, _, known⟩
  rw [known]
  exact (Sieve.reportAll_reflects policy s.roots _).hasErrors

theorem errorText_sifted (done : (s.sifted compiler files).result = .ok c) :
    (s.sifted compiler files).errorText = (s.compilation compiler files).ownText := by
  rcases (Session.mute_consult s.policy).errorText_bind done with ⟨policy, _, compiled, text⟩
  rw [sifted, text]
  cases runs : compiler.shouldRun s.passThrough with
  | false =>
    calc
      _ = (⟨[], files, .ok ⟨s.freshSieve policy, 0⟩⟩ : Progress RunError Compiled).errorText :=
        congrArg _ (Compiled.ofSettings_of_declines s compiler (s.freshSieve policy) files runs)
      _ = (s.compilation compiler files).ownText := by
        rw [s.compilation_of_declines compiler files runs]
        rfl
  | true =>
    calc
      _ = (Compiled.ofCompilation (s.freshSieve policy) (compiler.compile s.passThrough files)
            files).errorText :=
        congrArg _ (Compiled.ofSettings_of_runs s compiler (s.freshSieve policy) files runs)
      _ = (s.compilation compiler files).ownText := by
        rw [Compiled.errorText_ofCompilation, s.compilation_of_runs compiler files runs]

theorem errorText_run (colorize : Bool) (done : (s.sifted compiler files).result = .ok c) :
    (run s compiler colorize files).errorText =
      (s.sifted compiler files).errorText ++
        (c.conclude s colorize (s.sifted compiler files).files).errorText := by
  rw [run_eq_sifted, Session.errorText_bind done]
  rfl

theorem files_of_sifted {left : FileTree} (ended : (s.sifted compiler).Ends files c left) :
    left = (s.compilation compiler files).files := by
  rcases (Session.ends_bind_iff ..).mp ended with ⟨policy, between, consulted, compiling⟩
  rw [((Session.ends_consult_iff ..).mp consulted).2] at compiling
  rcases Compiled.ends_ofSettings compiling with ⟨_, _, _, same⟩
  exact same

theorem ownText_program (program : Program) (executable : String) (options : Settings)
    (files : FileTree) : (s.compilation (program.compiler executable options) files).ownText = "" := by
  cases runs : (program.compiler executable options : Backend).shouldRun s.passThrough with
  | false =>
    rw [s.compilation_of_declines _ files runs]
    rfl
  | true =>
    rw [s.compilation_of_runs _ files runs]
    exact (program.compiler_silent executable options s.passThrough files).ownText

theorem run_presenting {expectWarnings : Bool} {outputErrors : Option String} {one other : Backend}
    {colorize recolorize : Bool} {code recode : Nat}
    (alike : one.Alike other s.passThrough files)
    (apart : s.CapturesApart (s.compilation one files).files)
    (apartToo : (s.presenting expectWarnings outputErrors).CapturesApart
      (s.compilation one files).files)
    (finished : (run s one colorize files).result = .ok code)
    (finishedToo : (run (s.presenting expectWarnings outputErrors) other recolorize files).result =
      .ok recode) :
    let base := (s.compilation one files).files
    (run (s.presenting expectWarnings outputErrors) other recolorize files).compilerArguments =
        (run s one colorize files).compilerArguments ∧
      code = recode ∧
      base.AgreeOff (fun place => base.Denotes s.outputErrors place ∨ base.Denotes outputErrors place)
        (run s one colorize files).files
        (run (s.presenting expectWarnings outputErrors) other recolorize files).files := by
  intro base
  have same := s.sifted_presenting expectWarnings outputErrors alike
  have started : (run (s.presenting ..) other recolorize files).compilerArguments =
      (run s one colorize files).compilerArguments :=
    calc
      _ = ((s.presenting expectWarnings outputErrors).sifted other files).compilerArguments :=
        run_compilerArguments_eq_sifted _ other recolorize files
      _ = (s.sifted one files).compilerArguments := congrArg _ same
      _ = _ := (s.run_compilerArguments_eq_sifted one colorize files).symm
  rcases (ends_run_iff _ one colorize files code _).mp ⟨finished, rfl⟩ with
    ⟨c, between, sifted, concluded⟩
  rcases (ends_run_iff _ other recolorize files recode _).mp ⟨finishedToo, rfl⟩ with
    ⟨d, betweenToo, siftedToo, concludedToo⟩
  -- Both conclusions start from the same sieve and the same files.
  have again : (s.sifted one).Ends files d betweenToo := by
    rw [Session.Ends, ← same]
    exact siftedToo
  have equal : c = d := Except.ok.inj (sifted.1.symm.trans again.1)
  rw [s.files_of_sifted sifted] at concluded
  rw [← equal, s.files_of_sifted again] at concludedToo
  have together := c.conclude_lockstep s expectWarnings outputErrors colorize recolorize apart apartToo
  exact ⟨started, together _ _ _ _ _ _ (.refl _ _) concluded concludedToo⟩

theorem errorText_run_of_expecting (expecting : s.expectFailure = true ∨ s.expectWarnings = true)
    {colorize : Bool} {code : Nat} (finished : (run s compiler colorize files).result = .ok code) :
    ∃ c, (s.sifted compiler files).result = .ok c ∧ (run s compiler colorize files).errorText =
      (s.compilation compiler files).ownText ++
        if s.expectFailure = true ∧ ¬ c.Fails then Compiled.noticeLine colorize else "" := by
  rcases (s.ends_run_iff compiler colorize files code _).mp ⟨finished, rfl⟩ with
    ⟨c, between, ⟨sifted, rfl⟩, concluded, _⟩
  refine ⟨c, sifted, ?_⟩
  calc
    _ = (s.sifted compiler files).errorText ++
          (c.conclude s colorize (s.sifted compiler files).files).errorText :=
      s.errorText_run colorize sifted
    _ = (s.compilation compiler files).ownText ++
          if (c.outcome s).decide.missingFailure then Compiled.noticeLine colorize else "" := by
      rw [s.errorText_sifted sifted, c.errorText_conclude s colorize concluded,
        c.toldText_of_expecting s colorize expecting, String.empty_append]
    _ = _ := by simp only [c.missingFailure_iff s (s.hasErrors_of_sifted sifted)]

end Settings

/-- Which settings present a run does not matter to its result. For two runs on the same files with
compilers that do the same, whose settings differ only in whether warnings are expected, in where the
surfaced diagnostics are written and in colours: if both end in a code, and neither file of surfaced
diagnostics is the output or the source map, then the compiler is started with the same arguments, the
codes are the same, and the files are the same except for those two. A program is the same compiler for
both settings and shows nothing itself. Further, a run that ends in a code and is expected to fail or to
warn adds nothing to what its compiler shows, or exactly the notice: the latter where it is expected to
fail and does not. -/
theorem presentation_leaves_result_alone (s : Settings) (expectWarnings : Bool)
    (outputErrors : Option String) (one other : Backend) (colorize recolorize : Bool)
    (files : FileTree) :
    let t := s.presenting expectWarnings outputErrors
    let left := run s one colorize files
    let right := run t other recolorize files
    (∀ (program : Program) executable,
      program.compiler executable t = program.compiler executable s ∧
        (s.compilation (program.compiler executable s) files).ownText = "") ∧
    (one.Alike other s.passThrough files →
      s.CapturesApart (s.compilation one files).files →
      t.CapturesApart (s.compilation one files).files → ∀ code recode,
        left.result = .ok code → right.result = .ok recode →
          right.compilerArguments = left.compilerArguments ∧ recode = code ∧
          left.files.SameDirectories right.files ∧
          ∀ place, ¬ left.files.Denotes s.outputErrors place →
            ¬ left.files.Denotes outputErrors place →
              left.files.entry? place = right.files.entry? place) ∧
    (s.expectFailure = true ∨ s.expectWarnings = true → ∀ code, left.result = .ok code →
      ∃ c, (s.sifted one files).result = .ok c ∧ left.errorText =
        (s.compilation one files).ownText ++
          if s.expectFailure = true ∧ ¬ c.Fails then Compiled.noticeLine colorize else "") := by
  intro t left right
  refine ⟨?_, ?_, ?_⟩
  · intro program executable
    exact ⟨rfl, s.ownText_program program executable s files⟩
  · intro alike apart apartToo code recode finished finishedToo
    rcases s.run_presenting alike apart apartToo finished finishedToo with
      ⟨started, decided, agree⟩
    refine ⟨started, decided.symm, agree.left.symm.trans agree.right, ?_⟩
    intro place noErrors noErrorsToo
    apply agree.alike place
    rintro (here | here)
    · exact noErrors ((agree.left.denotes_iff _ place).mp here)
    · exact noErrorsToo ((agree.left.denotes_iff _ place).mp here)
  · intro expecting code finished
    exact s.errorText_run_of_expecting expecting finished

/-- Settings under which the one error of a program is suppressed, though it is to fail. -/
def forgivingSettings : Settings :=
  { suppressCodes := ["uselessCode"], expectFailure := true, outputErrors := some "errors.txt",
    jsOutputFile := some "out.js", createSourceMap := some "out.js.map" }

theorem forgivingSettings_presented :
    let compiler := deadCodeProgram.compiler "sh" forgivingSettings
    let plain := run forgivingSettings compiler false deadCodeFiles
    let coloured := run (forgivingSettings.presenting true (some "log.txt")) compiler true deadCodeFiles
    plain.result = .ok 1 ∧ coloured.result = .ok 1 ∧
      plain.errorText = "ERROR: Expected failure but didn't fail.\n" ∧
      coloured.compilerArguments = plain.compilerArguments ∧
      ∀ place, place ≠ ["errors.txt"] → place ≠ ["log.txt"] →
        plain.files.entry? place = coloured.files.entry? place := by
  intro compiler plain coloured
  have finished : plain.result = .ok 1 := by decide +kernel
  have finishedToo : coloured.result = .ok 1 := by decide +kernel
  rcases presentation_leaves_result_alone forgivingSettings true (some "log.txt") compiler compiler
    false true deadCodeFiles with ⟨programs, presented, shown⟩
  have apart : forgivingSettings.CapturesApart
      (forgivingSettings.compilation compiler deadCodeFiles).files :=
    ⟨FileTree.apart_of_ne rfl rfl (by decide), FileTree.apart_of_ne rfl rfl (by decide)⟩
  have apartToo : (forgivingSettings.presenting true (some "log.txt")).CapturesApart
      (forgivingSettings.compilation compiler deadCodeFiles).files :=
    ⟨FileTree.apart_of_ne rfl rfl (by decide), FileTree.apart_of_ne rfl rfl (by decide)⟩
  rcases presented ⟨rfl, rfl⟩ apart apartToo 1 1 finished finishedToo with ⟨arguments, _, _, entries⟩
  rcases shown (.inl rfl) 1 finished with ⟨c, sifted, text⟩
  have calm : ¬ c.Fails := by
    cases sifted
    decide +kernel
  have errorsAt : plain.files.locate "errors.txt" = .ok ["errors.txt"] := by decide +kernel
  have logAt : plain.files.locate "log.txt" = .ok ["log.txt"] := by decide +kernel
  refine ⟨finished, finishedToo, ?_, arguments, ?_⟩
  · rw [text, (programs deadCodeProgram "sh").2, if_pos ⟨rfl, calm⟩]
    rfl
  · intro place noErrors noLog
    apply entries place
    · rintro ⟨_, ⟨rfl⟩, located⟩
      exact noErrors (Except.ok.inj (located.symm.trans errorsAt))
    · rintro ⟨_, ⟨rfl⟩, located⟩
      exact noLog (Except.ok.inj (located.symm.trans logAt))

end DiagnosticSieve
