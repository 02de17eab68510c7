import DiagnosticSieve.FileTree

/-!
Writes to a file tree. A file that is written changes no directory, so every path leads where it led
before, and only what stands at the end of one path is replaced.
-/

namespace DiagnosticSieve.FileTree

open DiagnosticSieve.Path

@[simp] theorem entry?_root (t : FileTree) : t.entry? [] = some .directory := rfl

theorem entry?_put_self (t : FileTree) {place : Location} (entry : Entry) (below : place ≠ []) :
    FileTree.entry? (t.put place entry) place = some entry := by
  simp [ entry?, put, below]

theorem entry?_put_of_ne (t : FileTree) {place other : Location} (entry : Entry)
    (elsewhere : other ≠ place) :
    FileTree.entry? (t.put place entry) other = t.entry? other := by
  by_cases root : other = []
  · rw [root, entry?_root, entry?_root]
  have kept (entries : List (Location × Entry)) :
      (entries.filter fun e => e.1 ≠ place).lookup other = entries.lookup other := by
    induction entries with
    | nil => rfl
    | cons e entries ih =>
      obtain ⟨here, content⟩ := e
      by_cases same : here = place
      · have skipped : (other == here) = false := beq_false_of_ne (same ▸ elsewhere)
        rw [List.filter_cons_of_neg (by simp [same]), List.lookup_cons, skipped, ih]
      · rw [List.filter_cons_of_pos (by simp [same]), List.lookup_cons, List.lookup_cons, ih]
  rw [ entry?, entry?, if_neg root, if_neg root, put, List.lookup_cons, beq_false_of_ne elsewhere, kept]

/-- Two trees have the same directories, and the same one to start from. -/
structure SameDirectories (t u : FileTree) : Prop where
  workingDirectory : t.workingDirectory = u.workingDirectory
  directory_iff : ∀ place, t.entry? place = some .directory ↔ u.entry? place = some .directory

theorem SameDirectories.refl (t : FileTree) : t.SameDirectories t := ⟨rfl, fun _ => Iff.rfl⟩

theorem SameDirectories.symm {t u : FileTree} (same : t.SameDirectories u) : u.SameDirectories t :=
  ⟨same.workingDirectory.symm, fun place => (same.directory_iff place).symm⟩

theorem SameDirectories.trans {t u v : FileTree} (first : t.SameDirectories u)
    (second : u.SameDirectories v) : t.SameDirectories v :=
  ⟨first.workingDirectory.trans second.workingDirectory,
    fun place => (first.directory_iff place).trans (second.directory_iff place)⟩

theorem walk_cons_eq_ok_iff (t : FileTree) (here place : Location) (piece : List Char)
    (pieces : List (List Char)) :
    t.walk here (piece :: pieces) = .ok place ↔
      t.entry? here = some .directory ∧
        ∃ next, step here piece = .ok next ∧ t.walk next pieces = .ok place := by
  rw [walk]
  cases t.entry? here with
  | none => simp
  | some entry =>
    cases entry with
    | file contents executable => simp
    | directory => cases step here piece <;> simp

theorem SameDirectories.walk_iff {t u : FileTree} (same : t.SameDirectories u)
    (here place : Location) (pieces : List (List Char)) :
    t.walk here pieces = .ok place ↔ u.walk here pieces = .ok place := by
  induction pieces generalizing here with
  | nil => rfl
  | cons piece pieces ih =>
    rw [walk_cons_eq_ok_iff, walk_cons_eq_ok_iff, same.directory_iff]
    simp only [ih]

theorem locate_eq_ok_iff (t : FileTree) (path : String) (place : Location) :
    t.locate path = .ok place ↔
      checkPath path = .ok () ∧ t.walk (t.origin path.toList) (split path.toList) = .ok place := by
  rw [locate]
  cases checkPath path with
  | error e => simp [bind, Except.bind]
  | ok checked => simp [bind, Except.bind]

theorem SameDirectories.locate_iff {t u : FileTree} (same : t.SameDirectories u) (path : String)
    (place : Location) : t.locate path = .ok place ↔ u.locate path = .ok place := by
  rw [locate_eq_ok_iff, locate_eq_ok_iff, same.walk_iff, origin, origin, same.workingDirectory]

theorem lookup?_eq_ok_iff (t : FileTree) (path : String) (entry : Entry) :
    t.lookup? path = .ok entry ↔
      ∃ place, t.locate path = .ok place ∧ t.entry? place = some entry := by
  rw [lookup?]
  cases t.locate path with
  | error e => simp [bind, Except.bind]
  | ok place =>
    cases present : t.entry? place <;> simp [bind, Except.bind, present]

theorem exists?_iff (t : FileTree) (path : String) :
    t.exists? path = true ↔ ∃ entry, t.lookup? path = .ok entry := by
  rw [exists?]
  cases t.lookup? path <;> simp

theorem read_eq_ok_iff (t : FileTree) (path : String) (contents : ByteArray) :
    t.read path = .ok contents ↔ ∃ executable, t.lookup? path = .ok (.file contents executable) := by
  rw [read]
  cases t.lookup? path with
  | error e => simp [bind, Except.bind]
  | ok entry => cases entry <;> simp [bind, Except.bind]

theorem locate_of_locateNew (t : FileTree) (path : String) (place : Location)
    (found : t.locateNew path = .ok place) : t.locate path = .ok place := by
  rw [locate_eq_ok_iff]
  rw [locateNew] at found
  cases checked : checkPath path with
  | error e => simp [checked, bind, Except.bind] at found
  | ok fine =>
    refine ⟨rfl, ?_⟩
    simp only [checked, bind, Except.bind] at found
    split at found
    · split at found
      · cases found
      · split at found
        · exact found
        · split at found <;> cases found
    · exact found

def isExecutable (t : FileTree) (place : Location) : Bool :=
  match t.entry? place with
  | some (.file _ executable) => executable
  | _ => false

theorem write_eq_put {t u : FileTree} {path : String} {contents : ByteArray}
    (written : t.write path contents = .ok u) :
    ∃ place, t.locate path = .ok place ∧ t.entry? place ≠ some .directory ∧
      u = t.put place (.file contents (t.isExecutable place)) := by
  rw [write] at written
  cases found : t.locateNew path with
  | error e => simp [found, bind, Except.bind] at written
  | ok place =>
    refine ⟨place, t.locate_of_locateNew path place found, ?_⟩
    simp only [found, bind, Except.bind] at written
    rw [isExecutable]
    cases present : t.entry? place with
    | none =>
      simp only [present] at written
      cases written
      exact ⟨by simp, rfl⟩
    | some entry =>
      cases entry with
      | directory =>
        simp only [present] at written
        cases written
      | file before executable =>
        simp only [present] at written
        cases written
        exact ⟨by simp, rfl⟩

/-- What a write leaves: the file that the path leads to holds the contents, and all else is as it
was. -/
theorem write_eq_ok {t u : FileTree} {path : String} {contents : ByteArray}
    (written : t.write path contents = .ok u) :
    ∃ place, t.locate path = .ok place ∧ t.SameDirectories u ∧
      u.entry? place = some (.file contents (t.isExecutable place)) ∧
      ∀ other, other ≠ place → u.entry? other = t.entry? other := by
  obtain ⟨place, located, plain, rfl⟩ := write_eq_put written
  have below : place ≠ [] := by
    intro root
    exact plain (root ▸ t.entry?_root)
  have held := t.entry?_put_self (.file contents (t.isExecutable place)) below
  have others (other : Location) (elsewhere : other ≠ place) :=
    t.entry?_put_of_ne (.file contents (t.isExecutable place)) elsewhere
  refine ⟨place, located, ⟨rfl, ?_⟩, held, others⟩
  intro other
  by_cases same : other = place
  · simp [same, held, plain]
  · rw [others other same]

def Denotes (t : FileTree) (path : Option String) (place : Location) : Prop :=
  ∃ p, path = some p ∧ t.locate p = .ok place

/-- Two paths, as far as they are given, that do not lead to the same place. -/
def Apart (t : FileTree) (one other : Option String) : Prop :=
  ∀ place, t.Denotes one place → ¬ t.Denotes other place

theorem Denotes.mono {t : FileTree} {narrow wide : Option String}
    (given : ∀ p, narrow = some p → wide = some p) {place : Location} (here : t.Denotes narrow place) :
    t.Denotes wide place := by
  obtain ⟨p, named, located⟩ := here
  exact ⟨p, given p named, located⟩

theorem Apart.mono {t : FileTree} {one narrow wide : Option String} (apart : t.Apart one wide)
    (given : ∀ p, narrow = some p → wide = some p) : t.Apart one narrow :=
  fun place first second => apart place first (second.mono given)

theorem Apart.symm {t : FileTree} {one other : Option String} (apart : t.Apart one other) :
    t.Apart other one :=
  fun place second first => apart place first second

theorem Apart.neither {t : FileTree} {one other third : Option String} (apart : t.Apart one third)
    (apartToo : t.Apart other third) {place : Location} (here : t.Denotes third place) :
    ¬ (t.Denotes one place ∨ t.Denotes other place) :=
  not_or_intro (fun first => apart place first here) fun second => apartToo place second here

theorem apart_none (t : FileTree) (one : Option String) : t.Apart one none := by
  simp [Apart, Denotes]

theorem apart_of_ne {t : FileTree} {one other : String} {here there : Location}
    (first : t.locate one = .ok here) (second : t.locate other = .ok there) (different : here ≠ there) :
    t.Apart (some one) (some other) := by
  intro place leads follows
  obtain ⟨_, ⟨rfl⟩, found⟩ := leads
  obtain ⟨_, ⟨rfl⟩, again⟩ := follows
  rw [first] at found
  rw [second] at again
  cases found
  cases again
  exact different rfl

/-- One tree is another in which the file of a path, if there is one, got new contents. -/
structure Replaced (t u : FileTree) (path : Option String) (contents : ByteArray) : Prop where
  same : t.SameDirectories u
  held : ∀ p, path = some p → u.read p = .ok contents
  others : ∀ place, ¬ t.Denotes path place → u.entry? place = t.entry? place

theorem Replaced.none (t : FileTree) (contents : ByteArray) : t.Replaced t none contents where
  same := .refl t
  held := by simp
  others := fun _ _ => rfl

theorem replaced_of_write {t u : FileTree} {path : String} {contents : ByteArray}
    (written : t.write path contents = .ok u) : t.Replaced u (some path) contents := by
  obtain ⟨place, located, same, held, others⟩ := write_eq_ok written
  refine ⟨same, ?_, ?_⟩
  · intro p given
    cases given
    refine (u.read_eq_ok_iff path contents).mpr ⟨t.isExecutable place, ?_⟩
    exact (u.lookup?_eq_ok_iff path _).mpr ⟨place, (same.locate_iff path place).mp located, held⟩
  · intro other elsewhere
    apply others
    intro here
    exact elsewhere ⟨path, rfl, here ▸ located⟩

theorem readText_of_write {t u : FileTree} {path text : String}
    (written : t.write path text.toUTF8 = .ok u) : u.readText path = .ok text := by
  rw [readText, (replaced_of_write written).held path rfl]
  simp [bind, Except.bind, String.fromUTF8?, String.toUTF8, String.fromUTF8, text.isValidUTF8]

theorem SameDirectories.denotes_iff {t u : FileTree} (same : t.SameDirectories u)
    (path : Option String) (place : Location) : t.Denotes path place ↔ u.Denotes path place := by
  simp only [Denotes, same.locate_iff]

theorem SameDirectories.apart {t u : FileTree} (same : t.SameDirectories u)
    {one other : Option String} (apart : t.Apart one other) : u.Apart one other := by
  intro place first second
  exact apart place ((same.denotes_iff one place).mpr first) ((same.denotes_iff other place).mpr second)

theorem Replaced.lookup?_iff {t u : FileTree} {path : Option String} {contents : ByteArray}
    (replaced : t.Replaced u path contents) {other : String} (apart : t.Apart (some other) path)
    (entry : Entry) : u.lookup? other = .ok entry ↔ t.lookup? other = .ok entry := by
  rw [lookup?_eq_ok_iff, lookup?_eq_ok_iff]
  apply exists_congr
  intro place
  rw [← replaced.same.locate_iff]
  apply and_congr_right
  intro located
  rw [replaced.others place (apart place ⟨other, rfl, located⟩)]

theorem Replaced.read_iff {t u : FileTree} {path : Option String} {contents : ByteArray}
    (replaced : t.Replaced u path contents) {other : String} (apart : t.Apart (some other) path)
    (bytes : ByteArray) : u.read other = .ok bytes ↔ t.read other = .ok bytes := by
  simp only [read_eq_ok_iff, replaced.lookup?_iff apart]

end DiagnosticSieve.FileTree
