import DiagnosticSieve.Proofs.PolicyVerdicts
import DiagnosticSieve.Proofs.SieveInvariant
import DiagnosticSieve.Proofs.TranscriptBlocks

/-!
The captured text of a sieve as a transcript. What a sieve writes of the diagnostics of one transcript
is a transcript again, with the surfaced diagnostics and, behind their excerpts, the hints.
-/

namespace DiagnosticSieve

open Text

/-- The labels that a policy can name show something, and none of them ends a line. -/
def Policy.HasVisibleLabels (policy : Policy) : Prop :=
  ∀ moduleName label, policy.labelOf? moduleName = some label →
    allBlank label.toList = false ∧ Unbroken label.toList

theorem Policy.hasVisibleLabels_of_build {libraries : List Library} {everywhere : KindSet}
    {policy : Policy} (built : (Policy.build libraries everywhere).result = .ok policy)
    (visible : ∀ lib ∈ libraries, allBlank lib.label.toList = false ∧ Unbroken lib.label.toList) :
    policy.HasVisibleLabels := by
  intro moduleName label named
  rw [labelOf?_eq built] at named
  obtain ⟨lib, owns, rfl⟩ := Option.map_eq_some_iff.mp named
  exact visible lib (owner?_mem libraries moduleName lib owns).1

theorem Policy.HasVisibleLabels.attribution {policy : Policy} (labels : policy.HasVisibleLabels)
    (moduleName : String) :
    allBlank (policy.attribution moduleName).toList = false ∧
      Unbroken (policy.attribution moduleName).toList := by
  rw [Policy.attribution]
  cases named : policy.labelOf? moduleName with
  | none => decide
  | some label => exact labels moduleName label named

theorem unbroken_ofList {text : List Char} (whole : Unbroken text) :
    Unbroken (String.ofList text).toList := by
  rwa [String.toList_ofList]

theorem Kind.unbroken_key (k : Kind) : Unbroken k.key.toList := by
  have bare : Unbroken k.bareKey.toList := by
    cases k <;> exact unbroken_ofList (by decide)
  rw [Kind.key, String.toList_append, unbroken_append_iff]
  exact ⟨unbroken_ofList (by decide), bare⟩

theorem Group.unbroken_name (g : Group) : Unbroken g.name.toList := by
  cases g <;> exact unbroken_ofList (by decide)

/-- A line that belongs to the excerpt of whatever stands before it. -/
structure IsExcerptLine (x : String) : Prop where
  line : IsLine x.toList
  plain : LineClass.ofLine x.toList = .plain

theorem isExcerptLine_of_indented {x : String} {rest : List Char}
    (spelled : x.toList = ' ' :: ' ' :: rest) (visible : ∃ c ∈ rest, isBlank c = false)
    (whole : Unbroken rest) : IsExcerptLine x := by
  have indent : Unbroken [' ', ' '] := by decide
  constructor
  · rw [spelled]
    exact ⟨(unbroken_append_iff _ _).mpr ⟨indent, whole⟩, List.cons_ne_nil _ _⟩
  · rw [spelled]
    apply LineClass.ofLine_space_cons
    rw [allBlank, List.all_eq_false]
    obtain ⟨c, member, shows⟩ := visible
    exact ⟨c, List.mem_cons_of_mem _ member, by simp [shows]⟩

namespace Diagnostic

theorem isExcerptLine_of_mem_hintLines (d : Diagnostic) {attribution : String}
    (visible : allBlank attribution.toList = false) (whole : Unbroken attribution.toList) (x : String)
    (member : x ∈ d.hintLines attribution) : IsExcerptLine x := by
  rw [hintLines] at member
  cases registered : d.kind? with
  | none =>
    rw [registered] at member
    cases member
  | some k =>
    rw [registered] at member
    have key := k.unbroken_key
    have group := k.group.unbroken_name
    rcases List.mem_append.mp member with owner | source
    · rcases List.mem_cons.mp owner with rfl | named
      · have spelled : ("  ProTip: \"" ++ k.key ++ "\" or \"" ++ k.group.name ++
              "\" can be added to the `suppress` attribute of:").toList =
            ' ' :: ' ' :: ("ProTip: \"".toList ++ k.key.toList ++ "\" or \"".toList ++
              k.group.name.toList ++ "\" can be added to the `suppress` attribute of:".toList) := by
          simp [String.toList_append]
        refine isExcerptLine_of_indented spelled ?_ ?_
        · exact ⟨'P', by simp, by decide⟩
        · simp only [unbroken_append_iff, key, group, and_true]
          decide
      · rw [List.mem_singleton.mp named]
        exact isExcerptLine_of_indented (by simp [String.toList_append])
          (by simpa [allBlank] using visible) whole
    · split at source
      · rw [List.mem_singleton.mp source]
        have spelled : ("  Alternatively /** @suppress \x7b" ++ k.group.name ++
              "\x7d */ can be added to the source file.").toList =
            ' ' :: ' ' :: ("Alternatively /** @suppress \x7b".toList ++ k.group.name.toList ++
              "\x7d */ can be added to the source file.".toList) := by
          simp [String.toList_append]
        refine isExcerptLine_of_indented spelled ?_ ?_
        · exact ⟨'A', by simp, by decide⟩
        · simp only [unbroken_append_iff, group, and_true]
          decide
      · cases source

def shownLines (d : Diagnostic) : List String := d.headerText :: d.excerpt

/-- A diagnostic is read from the lines that show it. -/
structure Readable (d : Diagnostic) : Prop where
  header : ∃ h, Header.read? d.headerText.toList = some h ∧
    ∀ excerpt, h.diagnostic excerpt = { d with excerpt }
  headerLine : IsLine d.headerText.toList
  excerpt : ∀ x ∈ d.excerpt, IsExcerptLine x

theorem Readable.isLine {d : Diagnostic} (readable : d.Readable) (x : String)
    (member : x ∈ d.shownLines) : IsLine x.toList := by
  rcases List.mem_cons.mp member with rfl | inside
  · exact readable.headerLine
  · exact (readable.excerpt x inside).line

def hinted (policy : Policy) (roots : List String) (d : Diagnostic) : Diagnostic :=
  { d with excerpt := d.excerpt ++ d.hintLines (policy.attribution (d.moduleIn roots)) }

theorem render_eq (policy : Policy) (roots : List String) (d : Diagnostic) :
    d.render policy (d.moduleIn roots) = joinLines (d.hinted policy roots).shownLines := rfl

theorem hinted_of_unregistered (policy : Policy) (roots : List String) {d : Diagnostic}
    (unregistered : d.kind? = none) : d.hinted policy roots = d := by
  rw [hinted, hintLines, unregistered]
  simp

theorem Readable.hinted {d : Diagnostic} (readable : d.Readable) {policy : Policy}
    (labels : policy.HasVisibleLabels) (roots : List String) : (d.hinted policy roots).Readable where
  header := readable.header
  headerLine := readable.headerLine
  excerpt x member := by
    obtain ⟨visible, whole⟩ := labels.attribution (d.moduleIn roots)
    rcases List.mem_append.mp member with own | hint
    · exact readable.excerpt x own
    · exact d.isExcerptLine_of_mem_hintLines visible whole x hint

end Diagnostic

namespace Transcript

theorem isLine_of_mem_lines {text : String} (noReturn : '\r' ∉ text.toList) {line : List Char}
    (member : line ∈ lines text.toList) (nonempty : line ≠ []) : IsLine line := by
  obtain ⟨noLineFeed, chars⟩ := of_mem_lines member
  exact ⟨⟨noLineFeed, fun back => noReturn (chars _ back)⟩, nonempty⟩

theorem Stands.readable {text : String} (noReturn : '\r' ∉ text.toList) {d : Diagnostic}
    (stands : Stands (lines text.toList) d) (lined : d.column.isSome = true → d.line.isSome = true) :
    d.Readable := by
  obtain ⟨⟨line, member, h, found, same⟩, plain⟩ := stands
  have rest (more : List String) : h.diagnostic more = { d with excerpt := more } := by
    rw [← same]
    rfl
  obtain ⟨again, read, told⟩ := Header.read?_headerText found d.excerpt (by rwa [same])
  rw [same] at read
  obtain ⟨noLineFeed, chars⟩ := of_mem_lines member
  constructor
  case header => exact ⟨again, read, fun more => (told more).trans (rest more)⟩
  case headerLine =>
    rw [← same]
    refine ⟨⟨fun feed => ?_, fun back => ?_⟩, fun empty => ?_⟩
    · rcases Header.mem_headerText found feed with inside | others
      · exact noLineFeed inside
      · exact absurd others (by decide)
    · rcases Header.mem_headerText found back with inside | others
      · exact noReturn (chars _ inside)
      · exact absurd others (by decide)
    · rw [same] at empty
      rw [empty] at read
      cases read
  case excerpt =>
    intro x inside
    obtain ⟨standing, isPlain⟩ := plain x inside
    refine ⟨isLine_of_mem_lines noReturn standing ?_, isPlain⟩
    intro empty
    rw [empty] at isPlain
    cases isPlain

namespace Ending

theorem foldr_cons_shownLines {d : Diagnostic} (readable : d.Readable) {e : Ending}
    (closed : e.leading = []) :
    (d.shownLines.map String.toList).foldr cons e = ⟨[], d :: e.diagnostics, e.chatter⟩ := by
  obtain ⟨h, read, told⟩ := readable.header
  have opens := (LineClass.ofLine_eq_header_iff _ h).mpr read
  have plain (x : String) (member : x ∈ d.excerpt) := (readable.excerpt x member).plain
  rw [Diagnostic.shownLines, List.map_cons, List.foldr_cons, foldr_cons_plain _ plain, cons, opens]
  simp only [closed, List.append_nil, told]

theorem foldr_cons_flatMap_shownLines (ds : List Diagnostic) (readable : ∀ d ∈ ds, d.Readable)
    {e : Ending} (closed : e.leading = []) :
    ((ds.flatMap Diagnostic.shownLines).map String.toList).foldr cons e =
      ⟨[], ds ++ e.diagnostics, e.chatter⟩ := by
  induction ds with
  | nil =>
    obtain ⟨leading, diagnostics, chatter⟩ := e
    cases closed
    rfl
  | cons d ds ih =>
    rw [List.flatMap_cons, List.map_append, List.foldr_append,
      ih fun other member => readable other (List.mem_cons_of_mem d member),
      foldr_cons_shownLines (readable d List.mem_cons_self) rfl]
    rfl

end Ending

end Transcript

namespace Sieve

variable (policy : Policy) (roots : List String)

theorem surfaced_eq_map_hinted (ds : List Diagnostic) :
    ((fresh policy roots).reportAll ds).surfaced =
      ((policy.audible roots ds).map (Diagnostic.hinted policy roots)).map fun d =>
        ⟨d.severity, d.moduleIn roots, joinLines d.shownLines⟩ := by
  rw [(reportAll_reflects policy roots ds).surfaced, List.map_map]
  apply List.map_congr_left
  intro d _
  rw [Diagnostic.render_eq]
  rfl

theorem outputLines_reportAll (ds : List Diagnostic)
    (readable : ∀ d ∈ (policy.audible roots ds).map (Diagnostic.hinted policy roots), d.Readable) :
    ((fresh policy roots).reportAll ds).outputLines =
      ((policy.audible roots ds).map (Diagnostic.hinted policy roots)).flatMap Diagnostic.shownLines ++
        if (policy.audible roots ds).map (Diagnostic.hinted policy roots) = [] then []
        else [((fresh policy roots).reportAll ds).summary] := by
  rw [outputLines, surfaced_eq_map_hinted]
  generalize (policy.audible roots ds).map (Diagnostic.hinted policy roots) = shown at readable
  have split (d : Diagnostic) (member : d ∈ shown) :
      stringLines (joinLines d.shownLines) = d.shownLines :=
    stringLines_joinLines _ (readable d member).isLine
  have all : (shown.flatMap fun d => stringLines (joinLines d.shownLines)) =
      shown.flatMap Diagnostic.shownLines := by
    rw [List.flatMap_def, List.flatMap_def, List.map_congr_left split]
  rw [List.flatMap_map, all]
  simp

theorem ofString_joinLines_shownLines (shown : List Diagnostic) (readable : ∀ d ∈ shown, d.Readable)
    (errors warnings : Nat) :
    Transcript.ofString (joinLines (shown.flatMap Diagnostic.shownLines ++
      if shown = [] then [] else [summaryLine errors warnings])) = ⟨shown, []⟩ := by
  have whole (x : String) (member : x ∈ shown.flatMap Diagnostic.shownLines ++
      if shown = [] then [] else [summaryLine errors warnings]) : IsLine x.toList := by
    rcases List.mem_append.mp member with inside | last
    · obtain ⟨d, among, own⟩ := List.mem_flatMap.mp inside
      exact (readable d among).isLine x own
    · split at last
      · cases last
      · rw [List.mem_singleton.mp last]
        exact LineClass.isLine_summaryLine errors warnings
  rw [Transcript.ofString, lines_joinLines _ whole, Transcript.ofLines_eq, Transcript.Ending.ofLines,
    List.map_append, List.foldr_append]
  have counts : (((if shown = [] then [] else [summaryLine errors warnings]) : List String).map
      String.toList).foldr Transcript.Ending.cons {} = {} := by
    split
    · rfl
    · rw [List.map_singleton, List.foldr_cons, List.foldr_nil, Transcript.Ending.cons,
        LineClass.ofLine_summaryLine]
      rfl
  rw [counts, Transcript.Ending.foldr_cons_flatMap_shownLines shown readable rfl]
  simp

end Sieve

/-- What a sieve writes of a transcript is read as a transcript of the diagnostics that it surfaced, in
order, each with its hints behind its excerpt, and with nothing else. -/
theorem captured_text_reads_back (text : String) (noReturn : '\r' ∉ text.toList) (roots : List String)
    (policy : Policy) (labels : policy.HasVisibleLabels)
    (lined : ∀ d ∈ (Transcript.ofString text).diagnostics,
      d.column.isSome = true → d.line.isSome = true) :
    let ds := (Transcript.ofString text).diagnostics
    let sieve := (Sieve.fresh policy roots).reportAll ds
    let again := Transcript.ofString (joinLines sieve.outputLines)
    again.diagnostics = (policy.audible roots ds).map (Diagnostic.hinted policy roots) ∧
      (sieve.surfaced = again.diagnostics.map fun d =>
        ⟨d.severity, d.moduleIn roots, joinLines d.shownLines⟩) ∧
      (∀ d ∈ ds, d.kind? = none → d.hinted policy roots = d) ∧
      again.otherLines = [] ∧
      (again.diagnostics.countP fun d => d.severity = .error) = sieve.errors ∧
      (again.diagnostics.countP fun d => d.severity = .warning) = sieve.warnings ∧
      sieve.outputLines.getLast? = if again.diagnostics = [] then none
        else some (summaryLine (again.diagnostics.countP fun d => d.severity = .error)
          (again.diagnostics.countP fun d => d.severity = .warning)) := by
  intro ds sieve again
  have readable (d : Diagnostic)
      (member : d ∈ (policy.audible roots ds).map (Diagnostic.hinted policy roots)) : d.Readable := by
    obtain ⟨own, among, rfl⟩ := List.mem_map.mp member
    have reported : own ∈ ds := (List.mem_filter.mp among).1
    have stands : Transcript.Stands (lines text.toList) own := Transcript.stands_of_mem_ofLines reported
    exact (stands.readable noReturn (lined own reported)).hinted labels roots
  have written := Sieve.outputLines_reportAll policy roots ds readable
  -- Reading undoes writing; what follows only counts on both sides.
  have read : again = ⟨(policy.audible roots ds).map (Diagnostic.hinted policy roots), []⟩ := by
    show Transcript.ofString (joinLines sieve.outputLines) = _
    rw [written]
    exact Sieve.ofString_joinLines_shownLines _ readable _ _
  have surfaced := Sieve.surfaced_eq_map_hinted policy roots ds
  have counted := Sieve.reportAll_reflects policy roots ds
  have errors : (again.diagnostics.countP fun d => d.severity = .error) = sieve.errors := by
    rw [counted.errors, surfaced, List.countP_map, read]
    rfl
  have warnings : (again.diagnostics.countP fun d => d.severity = .warning) = sieve.warnings := by
    rw [counted.warnings, surfaced, List.countP_map, read]
    rfl
  have last : sieve.outputLines.getLast? = if again.diagnostics = [] then none
      else some (summaryLine sieve.errors sieve.warnings) := by
    rw [read, written]
    split
    · next none => simp [none]
    · simp [Sieve.summary, sieve]
  refine ⟨by rw [read], by rw [read]; exact surfaced,
    fun d _ => Diagnostic.hinted_of_unregistered policy roots, by rw [read], errors, warnings, ?_⟩
  rw [errors, warnings]
  exact last

def attributedClosure : List Library := [{ label := "//a:b", modules := ["m"] }]

/-- A diagnostic of a registered kind, with leading zeros in its line, and one without a key. -/
def deadCodeText : String :=
  "m.js:007:2: ERROR - [JSC_UNREACHABLE_CODE] dead\n  f();\n\nWARNING - odd\n"

theorem deadCodeText_reads_back :
    ∃ policy, (Policy.build attributedClosure ∅).result = .ok policy ∧
      let sieve := (Sieve.fresh policy []).reportAll (Transcript.ofString deadCodeText).diagnostics
      let again := Transcript.ofString (joinLines sieve.outputLines)
      again.otherLines = [] ∧ again.diagnostics =
        [⟨.error, some "JSC_UNREACHABLE_CODE", "dead", some "m.js", some 7, some 2,
            ["  f();",
              "  ProTip: \"JSC_UNREACHABLE_CODE\" or \"uselessCode\" can be added to the `suppress` attribute of:",
              "  //a:b",
              "  Alternatively /** @suppress \x7buselessCode\x7d */ can be added to the source file."]⟩,
          ⟨.warning, none, "odd", none, none, none, []⟩] := by
  obtain ⟨policy, built⟩ : ∃ policy, (Policy.build attributedClosure ∅).result = .ok policy :=
    ⟨_, rfl⟩
  have labels := Policy.hasVisibleLabels_of_build built (by decide)
  obtain ⟨read, _, _, others, _⟩ :=
    captured_text_reads_back deadCodeText (by decide +kernel) [] policy labels (by decide +kernel)
  cases built
  exact ⟨_, rfl, others, read.trans (by decide +kernel)⟩

end DiagnosticSieve
