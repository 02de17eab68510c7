import DiagnosticSieve.Compiler.Program

namespace DiagnosticSieve

namespace FileTree

variable (t : FileTree)

def HoldsProgram (path : String) : Prop := ∃ contents, t.lookup? path = .ok (.file contents true)

theorem checkProgram_eq_ok_iff (path : String) :
    t.checkProgram path = .ok () ↔ t.HoldsProgram path := by
  rw [checkProgram, HoldsProgram]
  cases t.lookup? path with
  | error e => simp [bind, Except.bind]
  | ok entry =>
    cases entry with
    | directory => simp [bind, Except.bind]
    | file contents executable => cases executable <;> simp [bind, Except.bind]

/-- A directory that a search passes over: it holds no such program, or none that may be started. -/
def PassesOver (name directory : String) : Prop :=
  ∃ e ∈ passable, t.checkProgram (within directory name) = .error e

section

variable {t} {name directory : String} (directories : List String) (missed : OsError)

theorem search_cons_of_found (found : t.checkProgram (within directory name) = .ok ()) :
    t.search name missed (directory :: directories) = .ok () := by
  simp only [search, found]

theorem search_cons_of_refused {e : OsError}
    (refused : t.checkProgram (within directory name) = .error e) :
    t.search name missed (directory :: directories) =
      if e ∈ passable then t.search name (remember missed e) directories else .error e := by
  simp only [search, refused]

end

/-- A search finds what stands in the first directory that it does not pass over. -/
theorem search_eq_ok_iff (name : String) (missed : OsError) (directories : List String) :
    t.search name missed directories = .ok () ↔
      ∃ before directory after, directories = before ++ directory :: after ∧
        (∀ earlier ∈ before, t.PassesOver name earlier) ∧
        t.checkProgram (within directory name) = .ok () := by
  induction directories generalizing missed with
  | nil => simp [search]
  | cons directory directories ih =>
    -- The first directory is the one, or it is passed over, or it ends the search.
    cases start : t.checkProgram (within directory name) with
    | ok found =>
      exact iff_of_true (search_cons_of_found directories missed start)
        ⟨[], directory, directories, rfl, by simp, start⟩
    | error e =>
      rw [search_cons_of_refused directories missed start]
      constructor
      · intro ended
        split at ended
        case isFalse => cases ended
        case isTrue passed =>
          obtain ⟨before, last, after, rfl, skipped, found⟩ := (ih (remember missed e)).mp ended
          have start : t.PassesOver name directory := ⟨e, passed, start⟩
          exact ⟨directory :: before, last, after, rfl, List.forall_mem_cons.mpr ⟨start, skipped⟩, found⟩
      · intro ⟨before, last, after, split, skipped, found⟩
        cases before with
        | nil =>
          cases split
          rw [start] at found
          cases found
        | cons earlier before =>
          cases split
          obtain ⟨⟨other, passed, refused⟩, skipped⟩ := List.forall_mem_cons.mp skipped
          rw [start] at refused
          cases refused
          rw [if_pos passed]
          exact (ih (remember missed e)).mpr ⟨before, last, after, rfl, skipped, found⟩

/-- A path with a slash has to lead to a program itself; a name alone is started from the first directory
of the search path that is not passed over. -/
theorem startable_eq_ok_iff (path : String) :
    t.startable path = .ok () ↔
      '/' ∈ path.toList ∧ t.HoldsProgram path ∨
        '/' ∉ path.toList ∧ path ≠ "" ∧
          ∃ before directory after, t.searchPath = before ++ directory :: after ∧
            (∀ earlier ∈ before, t.PassesOver path earlier) ∧
            t.HoldsProgram (within directory path) := by
  simp only [← checkProgram_eq_ok_iff, ← search_eq_ok_iff t path .notFound]
  by_cases slash : '/' ∈ path.toList
  · simp [startable, slash]
  · by_cases empty : path = ""
    · simp [startable, empty]
    · simp [startable, slash, empty]

end FileTree

theorem Program.checkStart_eq_ok_iff (files : FileTree) (executable : String)
    (arguments : List String) :
    checkStart files executable arguments = .ok () ↔
      (∀ text ∈ executable :: arguments, '\x00' ∉ text.toList) ∧
        files.startable executable = .ok () := by
  have free : ((executable :: arguments).any fun text => text.toList.contains '\x00') = false ↔
      ∀ text ∈ executable :: arguments, '\x00' ∉ text.toList := by
    simp
  rw [checkStart, ← free]
  cases (executable :: arguments).any fun text => text.toList.contains '\x00' <;> simp

end DiagnosticSieve
