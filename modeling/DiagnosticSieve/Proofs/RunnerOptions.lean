import DiagnosticSieve.Invocation
import DiagnosticSieve.Proofs.InlineValues

/-!
Options of the runner as they are written in front of the arguments of a run. Each of them is read as a
whole, and reading goes on behind it with what it sets; so all of them are read, one after the other,
whatever stands behind.
-/

namespace DiagnosticSieve

inductive Volume
  | verbose | quiet
  deriving DecidableEq, Repr

namespace Volume

def word : Volume → String
  | verbose => "--verbose"
  | quiet => "--quiet"

def letter : Volume → Char
  | verbose => 'v'
  | quiet => 'q'

def switch : Volume → Switch
  | verbose => .verbose
  | quiet => .quiet

theorem ofLetter?_letter (v : Volume) : Switch.ofLetter? v.letter = some v.switch := by
  cases v <;> rfl

theorem letter_ne_dash (v : Volume) : v.letter ≠ '-' := by
  cases v <;> decide

end Volume

inductive RunnerOption
  | compilerBehind (path : String)
  | compilerInside (path : String)
  | noColor
  | volume (v : Volume)
  | letters (first : Volume) (more : List Volume)
  deriving DecidableEq, Repr

namespace RunnerOption

def arguments : RunnerOption → List String
  | compilerBehind path => ["--compiler", path]
  | compilerInside path => ["--compiler" ++ "=" ++ path]
  | noColor => ["--no-color"]
  | volume v => [v.word]
  | letters first more => [String.ofList ('-' :: (first :: more).map Volume.letter)]

def compiler? : RunnerOption → Option String
  | compilerBehind path | compilerInside path => some path
  | _ => none

def switches : RunnerOption → List Switch
  | noColor => [.noColor]
  | volume v => [v.switch]
  | letters first more => (first :: more).map Volume.switch
  | _ => []

def word : RunnerOption → Word
  | compilerBehind _ => .compiler none
  | compilerInside path => .compiler (some path)
  | option => .switches option.switches

example : (letters .verbose [.verbose]).arguments = ["-vv"] := by decide

/-- An argument can be the value of the argument before it only if it does not look like an option. -/
def Separable : RunnerOption → Prop
  | compilerBehind path => ¬ "-".toList <+: path.toList
  | _ => True

end RunnerOption

namespace Switch

theorem ofName?_of_not_dashed (text : String) (plain : ¬ "--".toList <+: text.toList) :
    ofName? text = none := by
  unfold ofName?
  split
  case h_6 => rfl
  all_goals exact absurd (by decide) plain

end Switch

namespace Word

theorem ofArgument_of_not_dashed (text : String) (plain : ¬ "--".toList <+: text.toList) :
    ofArgument text =
      match text.toList with
      | '-' :: letters => ofLetters letters
      | _ => other := by
  unfold ofArgument
  rw [Argument.split_of_not_dashed text plain]
  split
  · exact absurd (by decide) plain
  · rename_i same
    cases same
    exact absurd (by decide) plain
  · rename_i same
    cases same
    have unnamed := Switch.ofName?_of_not_dashed _ plain
    exact unnamed ▸ rfl

theorem ofArgument_of_plain (text : String) (plain : ¬ "-".toList <+: text.toList) :
    ofArgument text = other := by
  have undashed : ¬ "--".toList <+: text.toList := fun dashed =>
    plain (List.IsPrefix.trans (by decide) dashed)
  rw [ofArgument_of_not_dashed text undashed]
  cases chars : text.toList with
  | nil => rfl
  | cons c rest =>
    have first : c ≠ '-' := by
      intro dash
      rw [chars, dash] at plain
      exact plain ⟨rest, rfl⟩
    simp [first]

theorem ofArgument_inside (path : String) :
    ofArgument ("--compiler" ++ "=" ++ path) = .compiler (some path) := by
  have longer : "--compiler" ++ "=" ++ path ≠ "--" := by
    intro same
    have chars := congrArg String.toList same
    simp at chars
  unfold ofArgument
  rw [Argument.split_append_value "--compiler" path (by decide) (by decide)]
  split
  · contradiction
  · rename_i same _
    cases same
    rfl
  · rename_i unnamed same _
    cases same
    exact absurd rfl unnamed

theorem ofArgument_volume (v : Volume) : ofArgument v.word = .switches [v.switch] := by
  cases v <;> rfl

theorem ofLetters_volumes (first : Volume) (more : List Volume) :
    ofLetters ((first :: more).map Volume.letter) = .switches ((first :: more).map Volume.switch) := by
  have each (vs : List Volume) :
      (vs.map Volume.letter).mapM Switch.ofLetter? = some (vs.map Volume.switch) := by
    induction vs with
    | nil => rfl
    | cons v vs ih => simp [v.ofLetter?_letter, ih]
  unfold ofLetters
  rw [each, List.map_cons]

theorem ofArgument_letters (first : Volume) (more : List Volume) :
    ofArgument (String.ofList ('-' :: (first :: more).map Volume.letter)) =
      .switches ((first :: more).map Volume.switch) := by
  have undashed : ¬ "--".toList <+: '-' :: (first :: more).map Volume.letter := by
    intro dashed
    exact first.letter_ne_dash (List.cons_prefix_cons.mp (List.cons_prefix_cons.mp dashed).2).1.symm
  rw [← String.toList_ofList (l := '-' :: _)] at undashed
  rw [ofArgument_of_not_dashed _ undashed, String.toList_ofList]
  exact ofLetters_volumes first more

end Word

theorem RunnerOption.head?_arguments (option : RunnerOption) :
    option.arguments.head?.map Word.ofArgument = some option.word := by
  cases option with
  | compilerBehind path => rfl
  | compilerInside path => exact congrArg some (Word.ofArgument_inside path)
  | noColor => rfl
  | volume v => exact congrArg some (Word.ofArgument_volume v)
  | letters first more => exact congrArg some (Word.ofArgument_letters first more)

theorem RunnerOption.switches_of_compiler (option : RunnerOption) {path : String}
    (given : option.compiler? = some path) : option.switches = [] := by
  cases option <;> simp [compiler?] at given <;> rfl

theorem RunnerOption.switches_useful (option : RunnerOption) :
    ∀ s ∈ option.switches, s ≠ .help ∧ s ≠ .version := by
  have useful (v : Volume) : v.switch ≠ .help ∧ v.switch ≠ .version := by
    cases v <;> decide
  cases option with
  | compilerBehind path | compilerInside path => simp [switches]
  | noColor => simp [switches]
  | volume v => simpa [switches] using useful v
  | letters first more =>
    intro s member
    obtain ⟨v, _, rfl⟩ := List.mem_map.mp member
    exact useful v

namespace Count

variable (c : Count)

@[simp] theorem val_raise (times : Nat) : (c.raise times).val = min (c.val + times) 255 := rfl

@[simp] theorem raise_zero : c.raise 0 = c := by
  apply Fin.ext
  rw [val_raise]
  omega

@[simp] theorem raise_raise (first second : Nat) :
    (c.raise first).raise second = c.raise (first + second) := by
  apply Fin.ext
  simp only [val_raise]
  omega

end Count

namespace Options

def take (o : Options) (option : RunnerOption) : Except NoRun Options :=
  match option.compiler? with
  | some path => o.setCompiler path
  | none => option.switches.foldlM set o

def switched (o : Options) (list : List Switch) : Options where
  compiler := o.compiler
  noColor := o.noColor || list.contains .noColor
  verbose := o.verbose.raise (list.count .verbose)
  quiet := o.quiet.raise (list.count .quiet)

theorem foldlM_set (o : Options) (list : List Switch)
    (useful : ∀ s ∈ list, s ≠ .help ∧ s ≠ .version)
    (once : o.noColor.toNat + list.count .noColor ≤ 1) :
    list.foldlM set o = .ok (o.switched list) := by
  induction list generalizing o with
  | nil => simp [switched, pure, Except.pure]
  | cons s list ih =>
    obtain ⟨first, rest⟩ := List.forall_mem_cons.mp useful
    rw [List.foldlM_cons]
    cases s with
    | noColor =>
      rw [List.count_cons_self] at once
      have coloured : o.noColor = false := by
        cases plain : o.noColor with
        | false => rfl
        | true =>
          rw [plain, Bool.toNat_true] at once
          omega
      have last : list.count .noColor = 0 := by omega
      have step : o.set .noColor = .ok { o with noColor := true } := by simp [set, coloured]
      have tail := ih { o with noColor := true } rest (by simp [last])
      rw [step]
      exact tail.trans (by simp [switched])
    | verbose =>
      have tail := ih { o with verbose := o.verbose.raise 1 } rest (by simpa using once)
      exact tail.trans (by simp [switched, Nat.add_comm 1])
    | quiet =>
      have tail := ih { o with quiet := o.quiet.raise 1 } rest (by simpa using once)
      exact tail.trans (by simp [switched, Nat.add_comm 1])
    | help => exact absurd rfl first.1
    | version => exact absurd rfl first.2

theorem toNat_noColor_switched_le (o : Options) (list : List Switch) :
    (o.switched list).noColor.toNat ≤ o.noColor.toNat + list.count .noColor := by
  by_cases asked : Switch.noColor ∈ list
  · have := List.count_pos_iff.mpr asked
    have := Bool.toNat_le (o.switched list).noColor
    omega
  · simp [switched, asked]

theorem foldlM_take (o : Options) (options : List RunnerOption)
    (single : (o.compiler.toList ++ options.filterMap RunnerOption.compiler?).length ≤ 1)
    (named : "" ∉ options.filterMap RunnerOption.compiler?)
    (once : o.noColor.toNat + (options.flatMap RunnerOption.switches).count .noColor ≤ 1) :
    options.foldlM take o =
      .ok { o.switched (options.flatMap RunnerOption.switches) with
        compiler := o.compiler.or (options.filterMap RunnerOption.compiler?).head? } := by
  induction options generalizing o with
  | nil => simp [switched, pure, Except.pure]
  | cons option options ih =>
    rw [List.foldlM_cons, take]
    rw [List.flatMap_cons, List.count_append] at once
    cases given : option.compiler? with
    | some path =>
      -- No compiler was given before, and none will be given later.
      rw [List.filterMap_cons_some given] at single named ⊢
      have free : o.compiler = none := by
        cases held : o.compiler with
        | none => rfl
        | some other => simp [held] at single
      have last : options.filterMap RunnerOption.compiler? = [] := by
        simpa [free] using single
      have nonempty : path ≠ "" := fun empty => named (by simp [empty])
      have silent := option.switches_of_compiler given
      have stored : o.setCompiler path = .ok { o with compiler := some path } := by
        simp [setCompiler, free, nonempty]
      have tail := ih { o with compiler := some path } (by simp [last]) (by simp [last])
        (by simpa [silent] using once)
      simp only [stored]
      refine tail.trans ?_
      simp [switched, silent, free]
    | none =>
      rw [List.filterMap_cons_none given] at single named ⊢
      have own := o.foldlM_set option.switches option.switches_useful (by omega)
      have turned := o.toNat_noColor_switched_le option.switches
      have tail := ih (o.switched option.switches) single named (by omega)
      simp only [own]
      refine tail.trans ?_
      simp [switched, List.count_append, Bool.or_assoc]

end Options

/-- Whether this may stand behind the argument of a compiler: anything but a switch that carries a
value. -/
def Clear (rest : List String) : Prop := rest.head?.map Word.ofArgument ≠ some .overloaded

theorem RunnerOption.clear_append (option : RunnerOption) (rest : List String) :
    Clear (option.arguments ++ rest) := by
  have read := option.head?_arguments
  cases written : option.arguments with
  | nil =>
    rw [written] at read
    cases read
  | cons text others =>
    rw [written] at read
    rw [Clear, List.cons_append, List.head?_cons]
    rw [List.head?_cons] at read
    rw [read]
    cases option <;> simp [word]

namespace Invocation

theorem parseFrom_switches (o : Options) (text : String) (list : List Switch)
    (read : Word.ofArgument text = .switches list) (rest : List String) :
    parseFrom o (text :: rest) = list.foldlM Options.set o >>= fun o => parseFrom o rest := by
  rw [parseFrom.eq_def]
  simp only [read]

theorem parseFrom_option (o : Options) (option : RunnerOption) (separable : option.Separable)
    (rest : List String) (clear : Clear rest) :
    parseFrom o (option.arguments ++ rest) = o.take option >>= fun o => parseFrom o rest := by
  cases option with
  | compilerBehind path =>
    have name : Word.ofArgument "--compiler" = .compiler none := rfl
    have value := Word.ofArgument_of_plain path separable
    have checked : checkNext rest = .ok () := if_neg clear
    show parseFrom o ("--compiler" :: path :: rest) = _
    simp only [parseFrom, name, value, checked]
    rfl
  | compilerInside path =>
    show parseFrom o (("--compiler" ++ "=" ++ path) :: rest) = _
    rw [parseFrom.eq_def]
    simp only [Word.ofArgument_inside]
    rfl
  | noColor => exact parseFrom_switches o "--no-color" [.noColor] rfl rest
  | volume v => exact parseFrom_switches o v.word [v.switch] (Word.ofArgument_volume v) rest
  | letters first more =>
    exact parseFrom_switches o _ _ (Word.ofArgument_letters first more) rest

theorem parseFrom_options (o : Options) (options : List RunnerOption)
    (separable : ∀ option ∈ options, option.Separable) (rest : List String) (clear : Clear rest) :
    parseFrom o (options.flatMap RunnerOption.arguments ++ rest) =
      options.foldlM Options.take o >>= fun o => parseFrom o rest := by
  induction options generalizing o with
  | nil => rfl
  | cons option options ih =>
    obtain ⟨first, others⟩ := List.forall_mem_cons.mp separable
    have behind : Clear (options.flatMap RunnerOption.arguments ++ rest) := by
      cases options with
      | nil => exact clear
      | cons next options =>
        rw [List.flatMap_cons, List.append_assoc]
        exact next.clear_append _
    rw [List.flatMap_cons, List.append_assoc, parseFrom_option o option first _ behind,
      List.foldlM_cons, bind_assoc]
    exact bind_congr fun next => ih next others

end Invocation

/-- Options that make a command line complete: one of them gives a compiler, the colours are turned off
once at most, and the log is not asked to be longer and shorter at once. -/
structure Complete (options : List RunnerOption) (path : String) : Prop where
  compiler : options.filterMap RunnerOption.compiler? = [path]
  named : path ≠ ""
  plain : ¬ "-".toList <+: path.toList
  once : (options.flatMap RunnerOption.switches).count .noColor ≤ 1
  oneWay : .verbose ∉ options.flatMap RunnerOption.switches ∨
    .quiet ∉ options.flatMap RunnerOption.switches

def shownLevel (more less : Nat) : Option Level :=
  match more, less with
  | 0, 0 => some .warn
  | 0, 1 => some .error
  | 0, _ => none
  | 1, _ => some .info
  | 2, _ => some .debug
  | _, _ => some .trace

theorem ofRank?_eq_shownLevel (more less : Nat) (oneWay : more = 0 ∨ less = 0) :
    Level.ofRank? (min (Level.warn.rank + more - less) Level.trace.rank) = shownLevel more less := by
  rcases oneWay with rfl | rfl
  · rcases less with _ | _ | n
    · rfl
    · rfl
    · have least : Level.warn.rank + 0 - (n + 2) = 0 := by simp [Level.rank]
      rw [least]
      rfl
  · rcases more with _ | _ | _ | n
    · rfl
    · rfl
    · rfl
    · have most : min (Level.warn.rank + (n + 3) - 0) Level.trace.rank = 5 := by
        simp only [Level.rank]
        omega
      rw [most]
      rfl

/-- The level is settled long before a count is full. -/
theorem shownLevel_min (more less : Nat) :
    shownLevel (min more 255) (min less 255) = shownLevel more less := by
  have full (n k : Nat) (small : k ≤ 255) : min (n + k) 255 = min n (255 - k) + k := by omega
  rcases more with _ | _ | _ | more
  · rcases less with _ | _ | less
    · rfl
    · rfl
    · rw [full less 2 (by decide)]
      rfl
  · rfl
  · rfl
  · rw [full more 3 (by decide)]
    rfl

theorem Options.limit_switched (list : List Switch) (path : Option String)
    (oneWay : list.count .verbose = 0 ∨ list.count .quiet = 0) :
    Options.limit { ({} : Options).switched list with compiler := path } =
      shownLevel (list.count .verbose) (list.count .quiet) := by
  have bounded : min (list.count .verbose) 255 = 0 ∨ min (list.count .quiet) 255 = 0 := by omega
  rw [← shownLevel_min, ← ofRank?_eq_shownLevel _ _ bounded]
  simp [limit, switched]

def invocationOf (options : List RunnerOption) (path : String) (arguments : List String) : Invocation where
  limit := shownLevel ((options.flatMap RunnerOption.switches).count .verbose)
    ((options.flatMap RunnerOption.switches).count .quiet)
  compiler := path
  noColor := (options.flatMap RunnerOption.switches).contains .noColor
  arguments := arguments

namespace Complete

variable {options : List RunnerOption} {path : String} (complete : Complete options path)
include complete

theorem separable : ∀ option ∈ options, option.Separable := by
  intro option member
  cases option with
  | compilerBehind other =>
    have given : other ∈ options.filterMap RunnerOption.compiler? :=
      List.mem_filterMap.mpr ⟨_, member, rfl⟩
    rw [complete.compiler, List.mem_singleton] at given
    rw [given]
    exact complete.plain
  | compilerInside _ | noColor | volume _ | letters _ _ => trivial

theorem parse_eq (rest : List String) (clear : Clear rest) :
    Invocation.parse (options.flatMap RunnerOption.arguments ++ rest) =
      Invocation.parseFrom { ({} : Options).switched (options.flatMap RunnerOption.switches) with
        compiler := some path } rest := by
  have taken := ({} : Options).foldlM_take options (by simp [complete.compiler])
    (by simpa [complete.compiler] using complete.named.symm) (by simpa using complete.once)
  rw [complete.compiler] at taken
  rw [Invocation.parse, Invocation.parseFrom_options _ options complete.separable rest clear, taken]
  rfl

theorem invocation_eq (arguments : List String) :
    Options.invocation { ({} : Options).switched (options.flatMap RunnerOption.switches) with
      compiler := some path } arguments = .ok (invocationOf options path arguments) := by
  have oneWay := complete.oneWay.imp List.count_eq_zero.mpr List.count_eq_zero.mpr
  have apart : ¬ (0 < (options.flatMap RunnerOption.switches).count .verbose ∧
      0 < (options.flatMap RunnerOption.switches).count .quiet) := by omega
  have level := Options.limit_switched (options.flatMap RunnerOption.switches) (some path) oneWay
  have both (list : List Switch) : (0 < (({} : Options).switched list).verbose &&
      0 < (({} : Options).switched list).quiet) = true ↔
        0 < list.count .verbose ∧ 0 < list.count .quiet := by
    simp only [Options.switched, Bool.and_eq_true, decide_eq_true_eq, Fin.lt_def, Count.val_raise,
      Fin.val_zero]
    omega
  rw [Options.invocation, level, if_neg (fun conflict => apart ((both _).mp conflict))]
  rfl

theorem parse_separated (rest : List String) :
    Invocation.parse (options.flatMap RunnerOption.arguments ++ "--" :: rest) =
      .ok (invocationOf options path rest) := by
  have clear : Clear ("--" :: rest) := by simp [Clear]; decide
  rw [complete.parse_eq _ clear, ← complete.invocation_eq rest, Invocation.parseFrom.eq_def]
  rfl

theorem parse_unseparated (rest : List String)
    (plain : ∀ first, rest.head? = some first → ¬ "-".toList <+: first.toList) :
    Invocation.parse (options.flatMap RunnerOption.arguments ++ rest) =
      .ok (invocationOf options path rest) := by
  cases rest with
  | nil =>
    rw [complete.parse_eq [] nofun, ← complete.invocation_eq []]
    rfl
  | cons first rest =>
    have read := Word.ofArgument_of_plain first (plain first rfl)
    have clear : Clear (first :: rest) := by simp [Clear, read]
    rw [complete.parse_eq _ clear, ← complete.invocation_eq (first :: rest), Invocation.parseFrom.eq_def]
    simp only [read]

end Complete

end DiagnosticSieve
