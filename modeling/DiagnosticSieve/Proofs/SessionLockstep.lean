import DiagnosticSieve.Proofs.SessionEnds

/-!
Sessions in lockstep. Two sessions that start from files which agree apart from some hidden places end
in the same value, and leave files which agree apart from those places.
-/

namespace DiagnosticSieve

namespace FileTree

/-- Two trees with the directories of a third one, that differ in hidden places at most. -/
structure AgreeOff (base : FileTree) (hidden : Location → Prop) (one other : FileTree) : Prop where
  left : base.SameDirectories one
  right : base.SameDirectories other
  alike : ∀ place, ¬ hidden place → one.entry? place = other.entry? place

namespace AgreeOff

variable {base one other : FileTree} {hidden : Location → Prop}

theorem refl (base : FileTree) (hidden : Location → Prop) : base.AgreeOff hidden base base :=
  ⟨.refl base, .refl base, fun _ _ => rfl⟩

theorem symm (agree : base.AgreeOff hidden one other) : base.AgreeOff hidden other one :=
  ⟨agree.right, agree.left, fun place seen => (agree.alike place seen).symm⟩

variable (agree : base.AgreeOff hidden one other)
include agree

theorem replaced {left : FileTree} {path : Option String} {contents : ByteArray}
    (written : one.Replaced left path contents)
    (hides : ∀ place, base.Denotes path place → hidden place) : base.AgreeOff hidden left other := by
  refine ⟨agree.left.trans written.same, agree.right, ?_⟩
  intro place seen
  have elsewhere : ¬ one.Denotes path place := by
    intro here
    exact seen (hides place ((agree.left.denotes_iff path place).mpr here))
  rw [written.others place elsewhere, agree.alike place seen]

variable {path : String} (seen : ∀ place, base.locate path = .ok place → ¬ hidden place)
include seen

theorem lookup?_iff (entry : Entry) :
    one.lookup? path = .ok entry ↔ other.lookup? path = .ok entry := by
  rw [lookup?_eq_ok_iff, lookup?_eq_ok_iff]
  apply exists_congr
  intro place
  rw [← agree.left.locate_iff, ← agree.right.locate_iff]
  apply and_congr_right
  intro located
  rw [agree.alike place (seen place located)]

theorem exists?_eq : one.exists? path = other.exists? path := by
  rw [Bool.eq_iff_iff]
  simp only [exists?_iff, agree.lookup?_iff seen]

theorem write {left right : FileTree} {contents : ByteArray}
    (written : one.write path contents = .ok left)
    (rewritten : other.write path contents = .ok right) : base.AgreeOff hidden left right := by
  rcases write_eq_ok written with ⟨place, located, same, held, others⟩
  rcases write_eq_ok rewritten with ⟨there, found, alike, heldToo, othersToo⟩
  -- The path leads to one place on both sides, since both have the directories of the base.
  have here : base.locate path = .ok place := (agree.left.locate_iff path place).mpr located
  have again : base.locate path = .ok there := (agree.right.locate_iff path there).mpr found
  rw [here] at again
  cases again
  refine ⟨agree.left.trans same, agree.right.trans alike, ?_⟩
  intro spot visible
  by_cases target : spot = place
  · rw [target, held, heldToo, isExecutable, isExecutable, agree.alike place (seen place here)]
  · rw [others spot target, othersToo spot target, agree.alike spot visible]

end AgreeOff

end FileTree

namespace Session

variable {ε α β : Type}

/-- Where two sessions are both carried out from related files, they end in the same value and leave
related files. -/
def Lockstep (related : FileTree → FileTree → Prop) (x y : Session ε α) : Prop :=
  ∀ one other value last left right, related one other → x.Ends one value left →
    y.Ends other last right → value = last ∧ related left right

namespace Lockstep

variable {related : FileTree → FileTree → Prop}

theorem pure (value : α) : Lockstep related (pure value : Session ε α) (pure value) := by
  intro one other first second left right relation ended endedToo
  rw [ends_pure_iff] at ended endedToo
  rw [ended.1, ended.2, endedToo.1, endedToo.2]
  exact ⟨rfl, relation⟩

theorem bind {x y : Session ε α} {next follow : α → Session ε β} (first : Lockstep related x y)
    (rest : ∀ value, Lockstep related (next value) (follow value)) :
    Lockstep related (x >>= next) (y >>= follow) := by
  intro one other value last left right relation ended endedToo
  rcases (ends_bind_iff ..).mp ended with ⟨found, between, begun, finished⟩
  rcases (ends_bind_iff ..).mp endedToo with ⟨foundToo, betweenToo, begunToo, finishedToo⟩
  rcases first _ _ _ _ _ _ relation begun begunToo with ⟨rfl, halfway⟩
  exact rest found _ _ _ _ _ _ halfway finished finishedToo

theorem idle {x y : Session ε Unit} (still : ∀ files left, x.Ends files () left → left = files)
    (stillToo : ∀ files left, y.Ends files () left → left = files) : Lockstep related x y := by
  intro one other _ _ left right relation ended endedToo
  rw [still one left ended, stillToo other right endedToo]
  exact ⟨rfl, relation⟩

theorem note (r other : LogRecord) :
    Lockstep related (note r : Session ε Unit) (note other) := by
  apply idle
  · intro files left ended
    exact (ends_note_iff ..).mp ended
  · intro files left ended
    exact (ends_note_iff ..).mp ended

theorem emit_if (p q : Prop) [Decidable p] [Decidable q] (events others : List Event) :
    Lockstep related (if p then emit events else Pure.pure () : Session ε Unit)
      (if q then emit others else Pure.pure ()) := by
  apply idle
  · intro files left ended
    exact (ends_emit_if_iff ..).mp ended
  · intro files left ended
    exact (ends_emit_if_iff ..).mp ended

variable {base : FileTree} {hidden : FileTree.Location → Prop} {path : String}
  (seen : ∀ place, base.locate path = .ok place → ¬ hidden place)
include seen

theorem pathExists :
    Lockstep (base.AgreeOff hidden) (pathExists path : Session ε Bool) (pathExists path) := by
  intro one other value last left right agree asked askedToo
  rw [ends_pathExists_iff] at asked askedToo
  rw [asked.1, asked.2, askedToo.1, askedToo.2]
  exact ⟨agree.exists?_eq seen, agree⟩

theorem write (contents : ByteArray) :
    Lockstep (base.AgreeOff hidden) (write path contents) (write path contents) := by
  intro one other _ _ left right agree written rewritten
  rw [ends_write_iff] at written rewritten
  exact ⟨rfl, agree.write seen written rewritten⟩

end Lockstep

end Session

end DiagnosticSieve
