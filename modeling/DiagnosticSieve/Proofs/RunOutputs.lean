import DiagnosticSieve.Proofs.AttemptResults
import DiagnosticSieve.Proofs.LineText
import DiagnosticSieve.Proofs.RunStages
import DiagnosticSieve.Proofs.SessionEnds
import DiagnosticSieve.Proofs.SieveInvariant

namespace DiagnosticSieve

open Text

theorem summaryLine_ne_empty (errors warnings : Nat) : summaryLine errors warnings ≠ "" := by
  intro empty
  have chars := congrArg String.toList empty
  simp [summaryLine, String.toList_append] at chars

namespace Outcome

variable (o : Outcome) {files left : FileTree}

theorem replaced_of_emptyOutput (ended : o.emptyOutput.Ends files () left) :
    files.Replaced left (if o.decide.emptyOutputs then o.jsOutputFile else none) ByteArray.empty := by
  rw [emptyOutput] at ended
  cases given : o.jsOutputFile with
  | none =>
    simp only [given, Session.ends_pure_iff, true_and] at ended
    rw [ended, ite_self]
    exact .none files _
  | some path =>
    simp only [given] at ended
    split at ended
    · obtain ⟨_, between, noted, written⟩ := (Session.ends_bind_iff ..).mp ended
      rw [(Session.ends_note_iff ..).mp noted, Session.ends_write_iff] at written
      simp only [*, if_true]
      exact FileTree.replaced_of_write written
    · simp only [Session.ends_pure_iff, true_and] at ended
      simp only [*]
      exact .none files _

theorem replaced_of_ensureSourceMap (ended : o.ensureSourceMap.Ends files () left) :
    files.Replaced left (o.sourceMap.filter fun path => !files.exists? path) ByteArray.empty := by
  rw [ensureSourceMap] at ended
  cases given : o.sourceMap with
  | none =>
    simp only [given, Session.ends_pure_iff, true_and] at ended
    rw [ended]
    exact .none files _
  | some path =>
    simp only [given] at ended
    obtain ⟨found, between, asked, rest⟩ := (Session.ends_bind_iff ..).mp ended
    obtain ⟨answer, same⟩ := (Session.ends_pathExists_iff ..).mp asked
    rw [same] at rest
    cases present : files.exists? path with
    | true =>
      simp only [answer, present, if_true, Session.ends_pure_iff, true_and] at rest
      rw [rest]
      simpa [Option.filter, present] using FileTree.Replaced.none files _
    | false =>
      simp only [answer, present, Bool.false_eq_true, if_false] at rest
      obtain ⟨_, _, noted, written⟩ := (Session.ends_bind_iff ..).mp rest
      rw [(Session.ends_note_iff ..).mp noted, Session.ends_write_iff] at written
      simpa [Option.filter, present] using FileTree.replaced_of_write written

end Outcome

namespace Compiled

variable (c : Compiled) (s : Settings) (colorize : Bool) {files left : FileTree}

theorem replaced_of_capture (ended : (c.capture s).Ends files () left) :
    files.Replaced left s.outputErrors c.captured.toUTF8 := by
  rw [capture] at ended
  cases given : s.outputErrors with
  | none =>
    simp only [given, Session.ends_pure_iff, true_and] at ended
    rw [ended]
    exact .none files _
  | some path =>
    simp only [given, Session.ends_write_iff] at ended
    exact FileTree.replaced_of_write ended

/-- The output where it is to be an empty file. -/
def emptiedOutput : Option String :=
  if (c.outcome s).decide.emptyOutputs then s.jsOutputFile else none

structure Writes (before captured emptied after : FileTree) : Prop where
  errors : before.Replaced captured s.outputErrors c.captured.toUTF8
  output : captured.Replaced emptied (c.emptiedOutput s) ByteArray.empty
  sourceMap : emptied.Replaced after
    (s.createSourceMap.filter fun path => !emptied.exists? path) ByteArray.empty

theorem writes_of_conclude {code : Nat} (ended : (c.conclude s colorize).Ends files code left) :
    ∃ captured emptied, c.Writes s files captured emptied left := by
  rw [conclude_eq, Session.ends_bind_iff] at ended
  obtain ⟨_, noted, counted, ended⟩ := ended
  obtain ⟨_, told, shown, ended⟩ := (Session.ends_bind_iff ..).mp ended
  obtain ⟨_, captured, capture, ended⟩ := (Session.ends_bind_iff ..).mp ended
  obtain ⟨_, finished, finalized, ended⟩ := (Session.ends_bind_iff ..).mp ended
  obtain ⟨_, last, noticed, ended⟩ := (Session.ends_bind_iff ..).mp ended
  rw [(Session.ends_note_iff ..).mp counted] at shown
  rw [(Session.ends_emit_if_iff ..).mp shown] at capture
  rw [((Session.ends_pure_iff ..).mp ended).2, (Session.ends_emit_if_iff ..).mp noticed]
  obtain ⟨_, emptied, emptying, rest⟩ := (Session.ends_bind_iff ..).mp finalized
  obtain ⟨_, mapped, mapping, decided⟩ := (Session.ends_bind_iff ..).mp rest
  rw [((Session.ends_pure_iff ..).mp decided).2]
  exact ⟨captured, emptied, c.replaced_of_capture s capture,
    (c.outcome s).replaced_of_emptyOutput emptying, (c.outcome s).replaced_of_ensureSourceMap mapping⟩

theorem captured_eq :
    c.captured = if c.sieve.surfaced = [] then "" else joinLines c.sieve.outputLines ++ "\n" := by
  by_cases nothing : c.sieve.surfaced = []
  · rw [if_pos nothing]
    simp [captured, Sieve.outputLines, nothing, joinLines]
  · have summed : c.sieve.summary ∈ c.sieve.outputLines := by
      simp [Sieve.outputLines, nothing]
    have text := joinLines_ne_empty summed (summaryLine_ne_empty _ _)
    rw [if_neg nothing, captured]
    simp [text]

def Fails : Prop := c.status ≠ 0 ∨ ∃ x ∈ c.sieve.surfaced, x.severity = .error

/-- Whether the output is to be an empty file, since none is wanted or none could be made. -/
def WantsEmptyOutput : Prop := s.checksOnly = true ∨ c.Fails ∧ s.expectFailure = true

/-- The files that a finished run leaves, compared with those that its compiler left. -/
structure Settles (before after : FileTree) : Prop where
  sourceMap_exists : ∀ path, s.createSourceMap = some path → after.exists? path = true
  sourceMap_kept : ∀ path, s.createSourceMap = some path → before.exists? path = true →
    ∀ entry, after.lookup? path = .ok entry ↔ before.lookup? path = .ok entry
  sourceMap_created : ∀ path, s.createSourceMap = some path → before.exists? path = false →
    after.read path = .ok ByteArray.empty
  output_emptied : ∀ path, s.jsOutputFile = some path → c.WantsEmptyOutput s →
    after.read path = .ok ByteArray.empty
  output_kept : ∀ path, s.jsOutputFile = some path → ¬ c.WantsEmptyOutput s →
    ∀ entry, after.lookup? path = .ok entry ↔ before.lookup? path = .ok entry
  captured : ∀ path, s.outputErrors = some path → after.read path =
    .ok (if c.sieve.surfaced = [] then "" else joinLines c.sieve.outputLines ++ "\n").toUTF8
  others : ∀ place, ¬ before.Denotes s.outputErrors place → ¬ before.Denotes s.jsOutputFile place →
    ¬ before.Denotes s.createSourceMap place → after.entry? place = before.entry? place
  paths : ∀ path place, after.locate path = .ok place ↔ before.locate path = .ok place

end Compiled

theorem Compiled.ofSettings_files (s : Settings) (compiler : Backend) (sieve : Sieve)
    (files : FileTree) :
    (Compiled.ofSettings s compiler sieve files).files = (s.compilation compiler files).files := by
  cases runs : compiler.shouldRun s.passThrough with
  | false =>
    rw [Compiled.ofSettings_of_declines s compiler sieve files runs,
      s.compilation_of_declines compiler files runs]
  | true =>
    rw [Compiled.ofSettings_of_runs s compiler sieve files runs,
      s.compilation_of_runs compiler files runs, Compiled.ofCompilation]
    cases (compiler.compile s.passThrough files).status <;> rfl

structure Settings.OutputsApart (s : Settings) (t : FileTree) : Prop where
  errors_output : t.Apart s.outputErrors s.jsOutputFile
  errors_sourceMap : t.Apart s.outputErrors s.createSourceMap
  output_sourceMap : t.Apart s.jsOutputFile s.createSourceMap

namespace Compiled

variable (c : Compiled) (s : Settings) (colorize : Bool)

section

variable (agrees : c.sieve.hasErrors = true ↔ ∃ x ∈ c.sieve.surfaced, x.severity = .error)
include agrees

theorem failed_iff : (c.outcome s).failed = true ↔ c.Fails := by
  simp only [Outcome.failed, outcome, Outcome.ofSettings, Bool.or_eq_true, decide_eq_true_eq, Fails,
    agrees]

theorem emptyOutputs_iff : (c.outcome s).decide.emptyOutputs = true ↔ c.WantsEmptyOutput s := by
  rw [WantsEmptyOutput, ← c.failed_iff s agrees]
  simp only [Outcome.decide, Bool.or_eq_true, Bool.and_eq_true]
  exact or_comm

end

theorem emptiedOutput_mono (p : String) (emptied : c.emptiedOutput s = some p) :
    s.jsOutputFile = some p := by
  rw [emptiedOutput] at emptied
  split at emptied
  · exact emptied
  · cases emptied

theorem created_mono (t : FileTree) (p : String)
    (created : (s.createSourceMap.filter fun path => !t.exists? path) = some p) :
    s.createSourceMap = some p :=
  (Option.filter_eq_some_iff.mp created).1

namespace Writes

variable {c s} {before captured emptied after : FileTree}

theorem toEmptied (writes : c.Writes s before captured emptied after) :
    before.SameDirectories emptied :=
  writes.errors.same.trans writes.output.same

theorem others (writes : c.Writes s before captured emptied after) (place : FileTree.Location)
    (noErrors : ¬ before.Denotes s.outputErrors place)
    (noOutput : ¬ before.Denotes s.jsOutputFile place)
    (noMap : ¬ before.Denotes s.createSourceMap place) : after.entry? place = before.entry? place := by
  have outputApart : ¬ captured.Denotes (c.emptiedOutput s) place := by
    intro here
    exact noOutput ((writes.errors.same.denotes_iff _ place).mpr (here.mono (c.emptiedOutput_mono s)))
  have mapApart : ¬ emptied.Denotes
      (s.createSourceMap.filter fun path => !emptied.exists? path) place := by
    intro here
    exact noMap ((writes.toEmptied.denotes_iff _ place).mpr (here.mono (created_mono s emptied)))
  rw [writes.sourceMap.others place mapApart, writes.output.others place outputApart,
    writes.errors.others place noErrors]

theorem read_errors (writes : c.Writes s before captured emptied after)
    (apart : before.Apart s.outputErrors s.jsOutputFile)
    (apartToo : before.Apart s.outputErrors s.createSourceMap) (path : String)
    (given : s.outputErrors = some path) : after.read path = .ok c.captured.toUTF8 := by
  have fromOutput := (given ▸ apart).mono (c.emptiedOutput_mono s)
  have fromMap := (given ▸ apartToo).mono (created_mono s emptied)
  rw [writes.sourceMap.read_iff (writes.toEmptied.apart fromMap),
    writes.output.read_iff (writes.errors.same.apart fromOutput)]
  exact writes.errors.held path given

variable (writes : c.Writes s before captured emptied after) (apart : s.OutputsApart before)
include writes apart

theorem read_output (path : String) (given : c.emptiedOutput s = some path) :
    after.read path = .ok ByteArray.empty := by
  have named := c.emptiedOutput_mono s path given
  have fromMap := (named ▸ apart.output_sourceMap).mono (created_mono s emptied)
  rw [writes.sourceMap.read_iff (writes.toEmptied.apart fromMap)]
  exact writes.output.held path given

theorem lookup?_output (path : String) (given : s.jsOutputFile = some path)
    (idle : c.emptiedOutput s = none) (entry : Entry) :
    after.lookup? path = .ok entry ↔ before.lookup? path = .ok entry := by
  have fromMap := (given ▸ apart.output_sourceMap).mono (created_mono s emptied)
  have fromErrors := (given ▸ apart.errors_output).symm
  have second := idle ▸ writes.output
  rw [writes.sourceMap.lookup?_iff (writes.toEmptied.apart fromMap),
    second.lookup?_iff (FileTree.apart_none _ _), writes.errors.lookup?_iff fromErrors]

/-- The first two writes leave the source map to the third one. -/
theorem lookup?_sourceMap_emptied (path : String) (given : s.createSourceMap = some path)
    (entry : Entry) : emptied.lookup? path = .ok entry ↔ before.lookup? path = .ok entry := by
  have fromErrors := (given ▸ apart.errors_sourceMap).symm
  have fromOutput := (given ▸ apart.output_sourceMap).symm.mono (c.emptiedOutput_mono s)
  rw [writes.output.lookup?_iff (writes.errors.same.apart fromOutput),
    writes.errors.lookup?_iff fromErrors]

theorem exists?_sourceMap_emptied (path : String) (given : s.createSourceMap = some path) :
    emptied.exists? path = before.exists? path := by
  rw [Bool.eq_iff_iff]
  simp only [FileTree.exists?_iff, writes.lookup?_sourceMap_emptied apart path given]

theorem lookup?_sourceMap (path : String) (given : s.createSourceMap = some path)
    (present : before.exists? path = true) (entry : Entry) :
    after.lookup? path = .ok entry ↔ before.lookup? path = .ok entry := by
  have idle : (s.createSourceMap.filter fun path => !emptied.exists? path) = none := by
    simp [given, Option.filter, writes.exists?_sourceMap_emptied apart path given, present]
  have third := idle ▸ writes.sourceMap
  rw [third.lookup?_iff (FileTree.apart_none _ _), writes.lookup?_sourceMap_emptied apart path given]

theorem read_sourceMap (path : String) (given : s.createSourceMap = some path)
    (absent : before.exists? path = false) : after.read path = .ok ByteArray.empty := by
  apply writes.sourceMap.held path
  simp [given, Option.filter, writes.exists?_sourceMap_emptied apart path given, absent]

theorem exists?_sourceMap (path : String) (given : s.createSourceMap = some path) :
    after.exists? path = true := by
  rw [FileTree.exists?_iff]
  cases present : before.exists? path with
  | true =>
    obtain ⟨entry, found⟩ := (before.exists?_iff path).mp present
    exact ⟨entry, (writes.lookup?_sourceMap apart path given present entry).mpr found⟩
  | false =>
    have created := writes.read_sourceMap apart path given present
    obtain ⟨executable, found⟩ := (after.read_eq_ok_iff path _).mp created
    exact ⟨_, found⟩

end Writes

theorem settles_of_conclude
    (agrees : c.sieve.hasErrors = true ↔ ∃ x ∈ c.sieve.surfaced, x.severity = .error)
    {files left : FileTree} (apart : s.OutputsApart files) {code : Nat}
    (ended : (c.conclude s colorize).Ends files code left) : c.Settles s files left := by
  obtain ⟨captured, emptied, writes⟩ := c.writes_of_conclude s colorize ended
  have wanted := c.emptyOutputs_iff s agrees
  constructor
  case sourceMap_exists => exact writes.exists?_sourceMap apart
  case sourceMap_kept => exact writes.lookup?_sourceMap apart
  case sourceMap_created => exact writes.read_sourceMap apart
  case output_emptied =>
    intro path given wants
    exact writes.read_output apart path (by rw [emptiedOutput, if_pos (wanted.mpr wants), given])
  case output_kept =>
    intro path given idle
    exact writes.lookup?_output apart path given (if_neg (idle ∘ wanted.mp))
  case captured =>
    intro path given
    rw [← c.captured_eq]
    exact writes.read_errors apart.errors_output apart.errors_sourceMap path given
  case others => exact writes.others
  case paths =>
    intro path place
    exact ((writes.toEmptied.trans writes.sourceMap.same).locate_iff path place).symm

end Compiled

theorem Compiled.ends_ofSettings {s : Settings} {compiler : Backend} {sieve : Sieve}
    {files left : FileTree} {compiled : Compiled}
    (ended : (Compiled.ofSettings s compiler sieve).Ends files compiled left) :
    ∃ status, (s.compilation compiler files).status = .ok status ∧
      compiled = ⟨sieve.reportAll (s.compilation compiler files).diagnostics, status⟩ ∧
      left = (s.compilation compiler files).files := by
  obtain ⟨done, rfl⟩ := ended
  rw [Compiled.ofSettings_result] at done
  cases status : (s.compilation compiler files).status with
  | error e =>
    rw [status] at done
    cases done
  | ok value =>
    rw [status] at done
    exact ⟨value, rfl, (Except.ok.inj done).symm, Compiled.ofSettings_files s compiler sieve files⟩

/-- A run that ends in a code has built a policy and a compilation, and leaves the declared files as
these say: a source map that exists, an empty output where none is wanted, and the surfaced
diagnostics. All other files are as the compiler left them. -/
theorem run_settles_outputs (s : Settings) (compiler : Backend) (colorize : Bool) (files : FileTree)
    (code : Nat) (finished : (run s compiler colorize files).result = .ok code)
    (apart : s.OutputsApart (s.compilation compiler files).files) :
    ∃ policy status, (s.policy files).result = .ok policy ∧
      (s.compilation compiler files).status = .ok status ∧
      Compiled.Settles
        ⟨(s.freshSieve policy).reportAll (s.compilation compiler files).diagnostics, status⟩ s
        (s.compilation compiler files).files (run s compiler colorize files).files := by
  have ended : (run s compiler colorize).Ends files code (run s compiler colorize files).files :=
    ⟨finished, rfl⟩
  obtain ⟨policy, _, consulted, rest⟩ := (Session.ends_bind_iff ..).mp ended
  obtain ⟨accepted, same⟩ := (Session.ends_consult_iff ..).mp consulted
  rw [same] at rest
  obtain ⟨compiled, between, compiling, concluding⟩ := (Session.ends_bind_iff ..).mp rest
  obtain ⟨status, exited, known, left⟩ := Compiled.ends_ofSettings compiling
  rw [known, left, Session.ends_mapError_iff] at concluding
  have fresh := Sieve.reportAll_reflects policy s.roots (s.compilation compiler files).diagnostics
  exact ⟨policy, status, accepted, exited,
    Compiled.settles_of_conclude _ s colorize fresh.hasErrors apart concluding⟩

/-- A run that is expected to fail and does so, with a file for each of its outputs. -/
def expectedFailure : Settings :=
  { expectFailure := true, outputErrors := some "errors.txt", jsOutputFile := some "out.js",
    createSourceMap := some "out.js.map" }

def brokenCompiler : Compiler := fun _ files =>
  { diagnostics := [⟨.error, none, "parse error", some "m.js", none, none, []⟩]
    files := files.put ["out.js"] (.file "broken".toUTF8 false)
    status := .ok 1 }

theorem expectedFailure_settles :
    let finished := run expectedFailure brokenCompiler false {}
    finished.result = .ok 0 ∧ finished.files.exists? "out.js.map" = true ∧
      finished.files.read "out.js" = .ok ByteArray.empty ∧
      finished.files.read "errors.txt" =
        .ok "m.js: ERROR - parse error\n1 error(s), 0 warning(s)\n".toUTF8 := by
  have finished : (run expectedFailure brokenCompiler false {}).result = .ok 0 := by decide +kernel
  have apart : expectedFailure.OutputsApart (brokenCompiler [] {}).files :=
    ⟨FileTree.apart_of_ne rfl rfl (by decide), FileTree.apart_of_ne rfl rfl (by decide),
      FileTree.apart_of_ne rfl rfl (by decide)⟩
  obtain ⟨policy, status, accepted, exited, settled⟩ :=
    run_settles_outputs expectedFailure brokenCompiler false {} 0 finished apart
  cases accepted
  cases exited
  refine ⟨finished, settled.sourceMap_exists _ rfl, ?_, ?_⟩
  · exact settled.output_emptied _ rfl (.inr ⟨.inl (by decide), rfl⟩)
  · rw [settled.captured _ rfl]
    decide +kernel

end DiagnosticSieve
