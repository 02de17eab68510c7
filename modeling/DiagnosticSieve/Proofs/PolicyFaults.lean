import DiagnosticSieve.Proofs.RunOrder

namespace DiagnosticSieve

open Text

section

variable {ε α β : Type} (f : α → Except ε β)

theorem mapM_of_error (before : List α) (x : α) (after : List α) (e : ε)
    (fine : ∀ other ∈ before, ∃ y, f other = .ok y) (failed : f x = .error e) :
    (before ++ x :: after).mapM f = .error e := by
  induction before with
  | nil =>
    rw [List.nil_append, List.mapM_cons, failed]
    rfl
  | cons other before ih =>
    obtain ⟨y, done⟩ := fine other List.mem_cons_self
    have rest := ih fun item member => fine item (List.mem_cons_of_mem other member)
    rw [List.cons_append, List.mapM_cons, done, rest]
    rfl

theorem first_error_of_mapM (xs : List α) (e : ε) (failed : xs.mapM f = .error e) :
    ∃ before x after, xs = before ++ x :: after ∧ (∀ other ∈ before, ∃ y, f other = .ok y) ∧
      f x = .error e := by
  induction xs with
  | nil => cases failed
  | cons first xs ih =>
    rw [List.mapM_cons] at failed
    cases head : f first with
    | error cause =>
      rw [head] at failed
      cases failed
      exact ⟨[], first, xs, rfl, by simp, head⟩
    | ok value =>
      cases tail : xs.mapM f with
      | ok values =>
        rw [head, tail] at failed
        cases failed
      | error cause =>
        rw [head, tail] at failed
        cases failed
        obtain ⟨before, x, after, split, fine, missed⟩ := ih tail
        refine ⟨first :: before, x, after, by rw [split]; rfl, ?_, missed⟩
        intro other member
        rcases List.mem_cons.mp member with rfl | inside
        · exact ⟨value, head⟩
        · exact fine other inside

end

theorem resolveCodes_eq_error_iff (codes : List String) (code : String) :
    resolveCodes codes = .error code ↔
      ∃ before after, codes = before ++ code :: after ∧
        (∀ other ∈ before, kindsOfCode? other ≠ none) ∧ kindsOfCode? code = none := by
  constructor
  · intro failed
    rcases known_or_first_unknown codes with known | ⟨before, first, after, rfl, known, unknown⟩
    · rw [resolveCodes_of_known codes known] at failed
      cases failed
    · rw [resolveCodes_of_unknown before first after known unknown] at failed
      cases failed
      exact ⟨before, after, rfl, known, unknown⟩
  · intro ⟨before, after, split, known, unknown⟩
    rw [split]
    exact resolveCodes_of_unknown before code after known unknown

namespace Library

inductive Unloadable (files : FileTree) (path : String) : LoadError → Prop
  | unreadable (reason : OsError) (refused : files.readText path = .error reason) :
      Unloadable files path (.unreadable path reason)
  | malformed (text : String) (fault : Json.Fault) (readable : files.readText path = .ok text)
      (faulty : parse text.toList = .error fault) :
      Unloadable files path (.malformed path fault.cause (fault.position text.toList))
  | blankLabel (text : String) (lib : Library) (readable : files.readText path = .ok text)
      (parsed : parse text.toList = .ok lib) (blank : trim lib.label.toList = []) :
      Unloadable files path (.blankLabel path)

variable (files : FileTree) (path : String)

theorem load_eq_error_iff (e : LoadError) : load files path = .error e ↔ Unloadable files path e := by
  constructor
  · intro failed
    rw [load] at failed
    cases readable : files.readText path with
    | error reason =>
      simp only [readable] at failed
      cases failed
      exact .unreadable reason readable
    | ok text =>
      simp only [readable, ofText] at failed
      cases parsed : parse text.toList with
      | error fault =>
        simp only [parsed] at failed
        cases failed
        exact .malformed text fault readable parsed
      | ok lib =>
        simp only [parsed] at failed
        split at failed
        · cases failed
          exact .blankLabel text lib readable parsed ((trim_eq_nil_iff _).mpr ‹_›)
        · cases failed
  · intro fault
    cases fault with
    | unreadable reason refused => simp only [load, refused]
    | malformed text fault readable faulty => simp only [load, readable, ofText, faulty]
    | blankLabel text lib readable parsed blank =>
      simp only [load, readable, ofText, parsed, (trim_eq_nil_iff _).mp blank, if_true]

theorem exists_load_eq_ok_iff :
    (∃ lib, load files path = .ok lib) ↔ ∀ e, ¬ Unloadable files path e := by
  simp only [← load_eq_error_iff]
  cases load files path <;> simp

def Loaded (files : FileTree) (paths : List String) (libraries : List Library) : Prop :=
  List.Forall₂ (fun path lib => load files path = .ok lib) paths libraries

theorem loadAll_eq_ok_iff (paths : List String) (libraries : List Library) :
    (loadAll files paths).result = .ok libraries ↔ Loaded files paths libraries := by
  rw [loadAll_result, mapM_eq_ok_iff, Loaded]

theorem Loaded.loadable {files : FileTree} {paths : List String} {libraries : List Library}
    (loaded : Loaded files paths libraries) : ∀ path ∈ paths, ∀ e, ¬ Unloadable files path e := by
  induction loaded with
  | nil => simp
  | @cons path lib _ _ found _ ih =>
    intro other member
    rcases List.mem_cons.mp member with rfl | inside
    · exact (exists_load_eq_ok_iff files other).mp ⟨lib, found⟩
    · exact ih other inside

theorem exists_loaded_iff (paths : List String) :
    (∃ libraries, Loaded files paths libraries) ↔ ∀ path ∈ paths, ∀ e, ¬ Unloadable files path e := by
  constructor
  · intro ⟨libraries, loaded⟩
    exact loaded.loadable
  · intro loadable
    cases outcome : paths.mapM (load files) with
    | ok libraries => exact ⟨libraries, (mapM_eq_ok_iff ..).mp outcome⟩
    | error e =>
      obtain ⟨before, path, after, split, _, failed⟩ := first_error_of_mapM _ _ _ outcome
      have member : path ∈ paths := by simp [split]
      exact absurd ((load_eq_error_iff files path e).mp failed) (loadable path member e)

end Library

theorem Policy.build_eq_error_iff (libraries : List Library) (everywhere : KindSet)
    (e : OwnershipError) :
    (build libraries everywhere).result = .error e ↔
      (OwnerIndex.build libraries).result = .error e := by
  rw [build, Attempt.result_bind_eq_error_iff]
  constructor
  · intro failed
    rcases failed with owners | ⟨owners, _, rest⟩
    · exact owners
    · cases rest
  · exact .inl

namespace Settings

/-- The fault that a run meets first: in the files of the libraries, in the codes for every module, or
in the closure of the libraries, in this order. -/
inductive FirstFault (s : Settings) (files : FileTree) : RunError → Prop
  | load (before : List String) (path : String) (after : List String) (e : LoadError)
      (infos : s.infos = before ++ path :: after)
      (loadable : ∀ other ∈ before, ∀ e, ¬ Library.Unloadable files other e)
      (fault : Library.Unloadable files path e) : FirstFault s files (.load e)
  | unknownCode (before : List String) (code : String) (after : List String)
      (loadable : ∀ path ∈ s.infos, ∀ e, ¬ Library.Unloadable files path e)
      (codes : s.suppressCodes = before ++ code :: after)
      (known : ∀ other ∈ before, kindsOfCode? other ≠ none) (unknown : kindsOfCode? code = none) :
      FirstFault s files (.unknownCode code)
  | ownership (libraries : List Library) (e : OwnershipError)
      (loaded : Library.Loaded files s.infos libraries)
      (known : ∀ code ∈ s.suppressCodes, kindsOfCode? code ≠ none)
      (refused : (OwnerIndex.build libraries).result = .error e) : FirstFault s files (.ownership e)

def Faulty (s : Settings) (files : FileTree) : Prop :=
  (∃ path ∈ s.infos, ∃ e, Library.Unloadable files path e) ∨
    (∃ code ∈ s.suppressCodes, kindsOfCode? code = none) ∨
    ∃ libraries everywhere e, Library.Loaded files s.infos libraries ∧
      (Policy.build libraries everywhere).result = .error e

variable (s : Settings) (files : FileTree)

theorem loadAll_eq_error_iff (e : LoadError) :
    (Library.loadAll files s.infos).result = .error e ↔ s.FirstFault files (.load e) := by
  rw [Library.loadAll_result]
  constructor
  · intro failed
    obtain ⟨before, path, after, infos, fine, missed⟩ := first_error_of_mapM _ _ _ failed
    refine .load before path after e infos ?_ ((Library.load_eq_error_iff ..).mp missed)
    exact fun other member => (Library.exists_load_eq_ok_iff ..).mp (fine other member)
  · intro fault
    cases fault with
    | load before path after _ infos loadable fault =>
      rw [infos]
      refine mapM_of_error _ before path after e ?_ ((Library.load_eq_error_iff ..).mpr fault)
      exact fun other member => (Library.exists_load_eq_ok_iff ..).mpr (loadable other member)

theorem everywhere_eq_error_iff (e : RunError) :
    s.everywhere = .error e ↔
      ∃ code, resolveCodes s.suppressCodes = .error code ∧ e = .unknownCode code := by
  rw [everywhere]
  cases resolveCodes s.suppressCodes <;> simp [eq_comm]

theorem everywhere_eq_ok_iff (kinds : KindSet) :
    s.everywhere = .ok kinds ↔
      (∀ code ∈ s.suppressCodes, kindsOfCode? code ≠ none) ∧ kinds = kindsOfCodes s.suppressCodes := by
  rw [everywhere]
  rcases known_or_first_unknown s.suppressCodes with known | ⟨before, code, after, codes, known, unknown⟩
  · rw [resolveCodes_of_known _ known]
    constructor
    · intro resolved
      cases resolved
      exact ⟨known, rfl⟩
    · rintro ⟨_, rfl⟩
      rfl
  · have unresolved := resolveCodes_of_unknown before code after known unknown
    constructor
    · intro resolved
      rw [codes, unresolved] at resolved
      cases resolved
    · rintro ⟨all, _⟩
      exact absurd unknown (all code (by simp [codes]))

/-- The policy is refused for the first fault, and for no other. -/
theorem policy_eq_error_iff (e : RunError) :
    (s.policy files).result = .error e ↔ s.FirstFault files e := by
  rw [Settings.policy, Attempt.result_bind_eq_error_iff]
  constructor
  · intro refused
    rcases refused with load | ⟨libraries, loaded, rest⟩
    · obtain ⟨cause, failed, rfl⟩ := (Attempt.result_mapError_eq_error_iff ..).mp load
      exact (s.loadAll_eq_error_iff files cause).mp failed
    rw [Attempt.result_mapError_eq_ok_iff, Library.loadAll_eq_ok_iff] at loaded
    rcases (Attempt.result_bind_eq_error_iff ..).mp rest with codes | ⟨kinds, resolved, build⟩
    · obtain ⟨code, unresolved, rfl⟩ := (s.everywhere_eq_error_iff e).mp codes
      obtain ⟨before, after, split, known, unknown⟩ := (resolveCodes_eq_error_iff ..).mp unresolved
      exact .unknownCode before code after loaded.loadable split known unknown
    · obtain ⟨cause, failed, rfl⟩ := (Attempt.result_mapError_eq_error_iff ..).mp build
      exact .ownership libraries cause loaded ((s.everywhere_eq_ok_iff kinds).mp resolved).1
        ((Policy.build_eq_error_iff ..).mp failed)
  · intro fault
    cases fault with
    | load before path after cause infos loadable fault =>
      have failed := (s.loadAll_eq_error_iff files cause).mpr
        (.load before path after cause infos loadable fault)
      exact .inl ((Attempt.result_mapError_eq_error_iff ..).mpr ⟨cause, failed, rfl⟩)
    | unknownCode before code after loadable codes known unknown =>
      obtain ⟨libraries, loaded⟩ := (Library.exists_loaded_iff files s.infos).mpr loadable
      refine .inr ⟨libraries, ?_, (Attempt.result_bind_eq_error_iff ..).mpr (.inl ?_)⟩
      · rw [Attempt.result_mapError_eq_ok_iff, Library.loadAll_eq_ok_iff]
        exact loaded
      · exact (s.everywhere_eq_error_iff _).mpr
          ⟨code, (resolveCodes_eq_error_iff ..).mpr ⟨before, after, codes, known, unknown⟩, rfl⟩
    | ownership libraries cause loaded known refused =>
      have resolved := (s.everywhere_eq_ok_iff _).mpr ⟨known, rfl⟩
      refine .inr ⟨libraries, ?_, (Attempt.result_bind_eq_error_iff ..).mpr
        (.inr ⟨kindsOfCodes s.suppressCodes, resolved, ?_⟩)⟩
      · rw [Attempt.result_mapError_eq_ok_iff, Library.loadAll_eq_ok_iff]
        exact loaded
      · exact (Attempt.result_mapError_eq_error_iff ..).mpr
          ⟨cause, (Policy.build_eq_error_iff ..).mpr refused, rfl⟩

theorem faulty_iff : s.Faulty files ↔ ∃ e, s.FirstFault files e := by
  constructor
  · intro faulty
    cases verdict : (s.policy files).result with
    | error e => exact ⟨e, (s.policy_eq_error_iff files e).mp verdict⟩
    | ok policy =>
      obtain ⟨libraries, kinds, loaded, resolved, built⟩ := (s.policy_eq_ok_iff files policy).mp verdict
      rcases faulty with ⟨path, member, e, fault⟩ | ⟨code, member, unknown⟩ |
        ⟨others, everywhere, e, again, failed⟩
      · have loadable := ((Library.loadAll_eq_ok_iff ..).mp loaded).loadable
        exact absurd fault (loadable path member e)
      · exact absurd unknown (((s.everywhere_eq_ok_iff kinds).mp resolved).1 code member)
      · rw [← Library.loadAll_eq_ok_iff, loaded] at again
        cases again
        rw [Policy.build_eq_error_iff] at failed
        obtain ⟨owners, done, _⟩ := (Policy.build_eq_ok_iff libraries kinds policy).mp built
        rw [done] at failed
        cases failed
  · intro ⟨e, fault⟩
    cases fault with
    | load before path after cause infos _ fault =>
      exact .inl ⟨path, by simp [infos], cause, fault⟩
    | unknownCode before code after _ codes _ unknown =>
      exact .inr (.inl ⟨code, by simp [codes], unknown⟩)
    | ownership libraries cause loaded known refused =>
      exact .inr (.inr ⟨libraries, ∅, cause, loaded, (Policy.build_eq_error_iff ..).mpr refused⟩)

end Settings

end DiagnosticSieve
