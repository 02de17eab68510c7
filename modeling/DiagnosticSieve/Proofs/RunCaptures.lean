import DiagnosticSieve.Proofs.RunPresentation

namespace DiagnosticSieve

open Text

theorem Diagnostic.render_ne_empty (policy : Policy) (moduleName : String) (d : Diagnostic) :
    d.render policy moduleName ≠ "" := by
  have header : d.headerText ≠ "" := by
    intro empty
    have chars := congrArg String.toList empty
    simp [headerText, String.toList_append] at chars
  exact joinLines_ne_empty List.mem_cons_self header

theorem Sieve.text_ne_empty_of_mem_surfaced (policy : Policy) (roots : List String)
    (ds : List Diagnostic) (x : Surfaced)
    (member : x ∈ ((fresh policy roots).reportAll ds).surfaced) : x.text ≠ "" := by
  rw [(reportAll_reflects policy roots ds).surfaced] at member
  rcases List.mem_map.mp member with ⟨d, _, rfl⟩
  exact d.render_ne_empty policy _

/-- A text of which splitting into lines keeps everything: it has no carriage return and does not end
with a line feed. -/
structure Text.KeepsLines (text : String) : Prop where
  noReturn : '\r' ∉ text.toList
  noLineFeed : text.toList.getLast? ≠ some '\n'

instance (text : String) : Decidable (KeepsLines text) :=
  decidable_of_iff ('\r' ∉ text.toList ∧ text.toList.getLast? ≠ some '\n')
    ⟨fun ⟨back, feed⟩ => ⟨back, feed⟩, fun keeps => ⟨keeps.noReturn, keeps.noLineFeed⟩⟩

theorem Text.KeepsLines.unended {text : String} (keeps : KeepsLines text) (some : text ≠ "") :
    ¬ Closed text.toList := by
  intro closed
  rcases closed with empty | last
  · exact some (by simpa using empty)
  · exact keeps.noLineFeed last

namespace Sieve

def reportTexts (s : Sieve) : List String :=
  if s.surfaced = [] then [] else s.surfaced.map Surfaced.text ++ [s.summary]

theorem endLines_outputLines (s : Sieve) (some : s.surfaced ≠ [])
    (whole : ∀ x ∈ s.surfaced, KeepsLines x.text ∧ x.text ≠ "") :
    endLines s.outputLines = endLines s.reportTexts := by
  have each : ∀ text ∈ s.surfaced.map Surfaced.text, '\r' ∉ text.toList ∧ ¬ Closed text.toList := by
    intro text member
    rcases List.mem_map.mp member with ⟨x, inside, rfl⟩
    rcases whole x inside with ⟨keeps, nonempty⟩
    exact ⟨keeps.noReturn, keeps.unended nonempty⟩
  have closing : (if s.surfaced.isEmpty then [] else [s.summary]) = [s.summary] := by simp [some]
  calc
    endLines s.outputLines =
        endLines ((s.surfaced.map Surfaced.text).flatMap stringLines) ++ endLines [s.summary] := by
      rw [outputLines, closing, endLines_append, List.flatMap_map]
    _ = endLines (s.surfaced.map Surfaced.text) ++ endLines [s.summary] := by
      rw [endLines_flatMap_stringLines _ each]
    _ = endLines s.reportTexts := by rw [reportTexts, if_neg some, endLines_append]

end Sieve

namespace Compiled

variable (c : Compiled) (s : Settings)

theorem captured_eq_endLines (whole : ∀ x ∈ c.sieve.surfaced, KeepsLines x.text ∧ x.text ≠ "") :
    c.captured = endLines c.sieve.reportTexts := by
  rw [captured_eq]
  by_cases none : c.sieve.surfaced = []
  · rw [if_pos none, Sieve.reportTexts, if_pos none]
    rfl
  · have some : c.sieve.outputLines ≠ [] := by simp [Sieve.outputLines, none]
    rw [if_neg none, joinLines_append_lineFeed some, c.sieve.endLines_outputLines none whole]

theorem toldText_eq_endLines (noFailure : s.expectFailure = false)
    (noWarnings : s.expectWarnings = false) :
    c.toldText s false = endLines c.sieve.reportTexts := by
  have shows : (c.outcome s).showsDiagnostics = true := by
    simp [Outcome.showsDiagnostics, outcome, Outcome.ofSettings, noFailure, noWarnings]
  have plain (text : String) (severity : Option Severity) : paint text severity false = text := rfl
  rw [toldText, if_pos shows, shown, Sieve.reportTexts, endLines]
  by_cases none : c.sieve.surfaced = []
  · simp [none]
  · simp [none, plain, Event.shownText, Function.comp_def]

end Compiled

/-- What a run shows is what it captures. A run that ends in a code, expects neither failures nor
warnings, uses no colours and has a file for the surfaced diagnostics of its own, adds to what its
compiler shows exactly the bytes that this file holds in the end, if no surfaced text has a carriage
return or ends with a line feed. There are none if nothing was surfaced. -/
theorem shown_text_is_captured (s : Settings) (compiler : Backend) (files : FileTree) (code : Nat)
    (path : String) (finished : (run s compiler false files).result = .ok code)
    (noFailure : s.expectFailure = false) (noWarnings : s.expectWarnings = false)
    (given : s.outputErrors = some path)
    (apart : s.CapturesApart (s.compilation compiler files).files) :
    ∃ policy, (s.policy files).result = .ok policy ∧
      let sieve := (s.freshSieve policy).reportAll (s.compilation compiler files).diagnostics
      (∀ x ∈ sieve.surfaced, KeepsLines x.text) →
        ∃ shown, (run s compiler false files).errorText =
            (s.compilation compiler files).ownText ++ shown ∧
          ((s.compilation compiler files).Silent → (run s compiler false files).errorText = shown) ∧
          (run s compiler false files).files.read path = .ok shown.toUTF8 ∧
          (shown = "" ↔ sieve.surfaced = []) := by
  rcases (s.ends_run_iff compiler false files code _).mp ⟨finished, rfl⟩ with
    ⟨c, between, ⟨sifted, rfl⟩, concluded⟩
  rcases (s.sifted_eq_ok_iff compiler files c).mp sifted with ⟨policy, accepted, _, known⟩
  refine ⟨policy, accepted, ?_⟩
  rw [← known]
  intro sieve keeps
  have whole (x : Surfaced) (member : x ∈ c.sieve.surfaced) : KeepsLines x.text ∧ x.text ≠ "" :=
    ⟨keeps x member, Sieve.text_ne_empty_of_mem_surfaced policy s.roots _ x (known ▸ member)⟩
  have text : (run s compiler false files).errorText =
      (s.compilation compiler files).ownText ++ endLines c.sieve.reportTexts := by
    have calm : (c.outcome s).decide.missingFailure = false := by
      simp [Outcome.decide, Compiled.outcome, Outcome.ofSettings, noFailure]
    calc
      _ = (s.sifted compiler files).errorText ++
            (c.conclude s false (s.sifted compiler files).files).errorText := s.errorText_run false sifted
      _ = (s.compilation compiler files).ownText ++ (c.toldText s false ++ "") := by
        rw [s.errorText_sifted sifted, c.errorText_conclude s false concluded.1, calm]
        rfl
      _ = (s.compilation compiler files).ownText ++ endLines c.sieve.reportTexts := by
        rw [String.append_empty, c.toldText_eq_endLines s noFailure noWarnings]
  refine ⟨endLines c.sieve.reportTexts, text, ?_, ?_, ?_⟩
  · intro silent
    rw [text, silent.ownText, String.empty_append]
  · rcases c.writes_of_conclude s false concluded with ⟨captured, emptied, writes⟩
    rw [s.files_of_sifted ⟨sifted, rfl⟩] at writes
    rw [← c.captured_eq_endLines whole]
    exact writes.read_errors apart.output apart.sourceMap path given
  · rw [endLines_eq_empty_iff, Sieve.reportTexts]
    simp [sieve]

def capturingSettings : Settings := { outputErrors := some "errors.txt" }

/-- A compiler with an empty line inside an excerpt. -/
def gappyCompiler : Compiler := fun _ files =>
  { diagnostics := [⟨.error, none, "odd", none, none, none, ["", "  x"]⟩], files, status := .ok 0 }

theorem gappyCompiler_captured :
    let finished := run capturingSettings gappyCompiler false {}
    finished.result = .ok 1 ∧ finished.errorText = "ERROR - odd\n\n  x\n1 error(s), 0 warning(s)\n" ∧
      finished.files.read "errors.txt" = .ok finished.errorText.toUTF8 := by
  have finished : (run capturingSettings gappyCompiler false {}).result = .ok 1 := by decide +kernel
  have apart : capturingSettings.CapturesApart
      (capturingSettings.compilation gappyCompiler {}).files :=
    ⟨FileTree.apart_none _ _, FileTree.apart_none _ _⟩
  have silent : (capturingSettings.compilation gappyCompiler {}).Silent := by
    intro event member
    cases member
  rcases shown_text_is_captured capturingSettings gappyCompiler {} 1 "errors.txt" finished rfl rfl rfl
    apart with ⟨policy, accepted, captures⟩
  cases accepted
  rcases captures (by decide +kernel) with ⟨shown, _, text, read, _⟩
  have seen := text silent
  refine ⟨finished, by decide +kernel, ?_⟩
  rw [seen]
  exact read

end DiagnosticSieve
