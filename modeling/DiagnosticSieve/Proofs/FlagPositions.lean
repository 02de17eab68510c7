import DiagnosticSieve.Settings

/-!
Flag positions. Whether an argument is looked at as a flag can be told from its place and from the
arguments before it. The occurrences that settings are made of are the arguments at flag positions, each
with the argument behind it.
-/

namespace DiagnosticSieve

namespace Argument

/-- The part of an argument that names a flag: what stands before the first equals sign, if that starts
with two dashes, and else all of it. -/
def flagPart (text : String) : String :=
  let front := text.toList.takeWhile (· ≠ '=')
  if "--".toList.isPrefixOf front then String.ofList front else text

theorem split_fst (text : String) : (split text).1 = flagPart text := by
  rw [split, flagPart]
  cases behind : text.toList.dropWhile (· ≠ '=') with
  | cons sign value =>
    simp only
    split <;> rfl
  | nil =>
    have whole : text.toList.takeWhile (· ≠ '=') = text.toList := by
      have parts := List.takeWhile_append_dropWhile (p := (· ≠ '=')) (l := text.toList)
      rwa [behind, List.append_nil] at parts
    simp only [whole, String.ofList_toList, ite_self]

theorem split_fst_of_bare (text : String) (bare : (split text).2 = none) : (split text).1 = text := by
  rw [split] at bare ⊢
  cases behind : text.toList.dropWhile (· ≠ '=') with
  | nil => rfl
  | cons sign value =>
    rw [behind] at bare
    simp only at bare ⊢
    split at bare
    · cases bare
    · rename_i plain
      rw [if_neg plain]

end Argument

def separateFlags : List String := ["--info", "--output_errors", "--suppress"]

def runnerFlags : List String :=
  separateFlags ++ ["--expect_failure", "--expect_warnings", "--export_test_functions",
    "--disable_property_renaming", "--experimental_dev_build"]

namespace Flag

def takesValue : Flag → Bool
  | .value _ => true
  | _ => false

def forRunner : Flag → Bool
  | .value _ | .switch _ => true
  | _ => false

theorem takesValue_ofString (text : String) :
    (ofString text).takesValue = separateFlags.contains text := by
  unfold ofString
  split <;> simp_all [takesValue, separateFlags]

theorem forRunner_ofString (text : String) :
    (ofString text).forRunner = runnerFlags.contains text := by
  unfold ofString
  split <;> simp_all [forRunner, runnerFlags, separateFlags]

end Flag

namespace Occurrence

theorem takesNext_ofArgument (text : String) (next : Option String) :
    (ofArgument text next).takesNext = separateFlags.contains text := by
  have kind := Flag.takesValue_ofString (Argument.split text).1
  cases inline : (Argument.split text).2 with
  | none =>
    rw [Argument.split_fst_of_bare text inline] at kind
    rw [← kind, takesNext, flag, ofArgument, inline, Argument.split_fst_of_bare text inline]
    cases Flag.ofString text <;> rfl
  | some value =>
    -- none of the three flags has an equals sign in it
    have other : ¬ text ∈ separateFlags := by
      intro bare
      simp only [separateFlags, List.mem_cons, List.not_mem_nil, or_false] at bare
      rcases bare with rfl | rfl | rfl <;> simp [Argument.split] at inline
    rw [takesNext, flag, ofArgument, inline]
    cases Flag.ofString (Argument.split text).1 <;> simp [other]

end Occurrence

theorem occurrences_cons (text : String) (rest : List String) :
    occurrences (text :: rest) = Occurrence.ofArgument text rest.head? ::
      occurrences (if separateFlags.contains text then rest.tail else rest) := by
  cases rest with
  | nil => cases separateFlags.contains text <;> rfl
  | cons next rest =>
    rw [occurrences, Occurrence.takesNext_ofArgument, List.head?_cons, List.tail_cons]
    split <;> rfl

/-- Whether the argument at a place stands at a flag position: the one before it, if that stands at a
flag position itself, does not take it as its value. -/
def atFlagPosition (arguments : List String) : Nat → Bool
  | 0 => true
  | i + 1 => !(atFlagPosition arguments i && arguments[i]?.any separateFlags.contains)

def flagged (arguments : List String) : List (String × Nat) :=
  arguments.zipIdx.filter fun x => atFlagPosition arguments x.2

theorem mem_flagged_iff (arguments : List String) (text : String) (i : Nat) :
    (text, i) ∈ flagged arguments ↔ arguments[i]? = some text ∧ atFlagPosition arguments i = true := by
  rw [flagged, List.mem_filter, List.mk_mem_zipIdx_iff_getElem?]

theorem atFlagPosition_append_left (front rest : List String) (i : Nat) (inside : i ≤ front.length) :
    atFlagPosition (front ++ rest) i = atFlagPosition front i := by
  induction i with
  | zero => rfl
  | succ i ih =>
    rw [atFlagPosition, atFlagPosition, ih (Nat.le_of_succ_le inside), List.getElem?_append_left inside]

theorem atFlagPosition_append (front rest : List String)
    (start : atFlagPosition (front ++ rest) front.length = true) (i : Nat) :
    atFlagPosition (front ++ rest) (front.length + i) = atFlagPosition rest i := by
  induction i with
  | zero => exact start
  | succ i ih =>
    have place : (front ++ rest)[front.length + i]? = rest[i]? := by
      rw [List.getElem?_append_right (Nat.le_add_right _ _), Nat.add_sub_cancel_left]
    rw [← Nat.add_assoc, atFlagPosition, atFlagPosition, ih, place]

theorem flagged_append (front rest : List String)
    (start : atFlagPosition (front ++ rest) front.length = true) :
    flagged (front ++ rest) =
      (front.zipIdx.filter fun x => atFlagPosition (front ++ rest) x.2) ++
        (flagged rest).map fun x : String × Nat => (x.1, front.length + x.2) := by
  have shifted : (fun x : String × Nat => atFlagPosition (front ++ rest) x.2) ∘
      (fun x : String × Nat => (x.1, front.length + x.2)) = fun x => atFlagPosition rest x.2 :=
    funext fun x => atFlagPosition_append front rest start x.2
  rw [flagged, List.zipIdx_append, List.filter_append, Nat.zero_add,
    List.zipIdx_eq_map_add (l := rest), List.filter_map, flagged]
  exact congrArg (fun keep => _ ++ (rest.zipIdx.filter keep).map _) shifted

theorem map_flagged_append (front rest : List String)
    (start : atFlagPosition (front ++ rest) front.length = true) :
    ((flagged (front ++ rest)).map fun x =>
        Occurrence.ofArgument x.1 (front ++ rest)[x.2 + 1]?) =
      ((front.zipIdx.filter fun x => atFlagPosition (front ++ rest) x.2).map fun x =>
        Occurrence.ofArgument x.1 (front ++ rest)[x.2 + 1]?) ++
        (flagged rest).map fun x => Occurrence.ofArgument x.1 rest[x.2 + 1]? := by
  rw [flagged_append front rest start, List.map_append, List.map_map]
  apply congrArg (List.append _)
  apply List.map_congr_left
  intro x _
  have place : (front ++ rest)[front.length + x.2 + 1]? = rest[x.2 + 1]? := by
    rw [Nat.add_assoc, List.getElem?_append_right (Nat.le_add_right _ _), Nat.add_sub_cancel_left]
  exact congrArg (Occurrence.ofArgument x.1) place

theorem occurrences_eq (arguments : List String) :
    occurrences arguments =
      (flagged arguments).map fun x => Occurrence.ofArgument x.1 arguments[x.2 + 1]? := by
  fun_induction occurrences arguments with
  | case1 => rfl
  | case2 text => rfl
  | case3 text next rest first takes ih =>
    have bare : separateFlags.contains text = true :=
      (Occurrence.takesNext_ofArgument text (some next)).symm.trans takes
    have skipped : atFlagPosition ([text, next] ++ rest) 1 = false := by
      simp only [atFlagPosition, List.cons_append, List.getElem?_cons_zero, Option.any_some, bare]
      rfl
    have start : atFlagPosition ([text, next] ++ rest) [text, next].length = true := by
      show (!(atFlagPosition ([text, next] ++ rest) 1 && _)) = true
      rw [skipped]
      rfl
    have anew := map_flagged_append [text, next] rest start
    simp only [List.zipIdx_cons, List.zipIdx_nil, Nat.zero_add, List.filter_cons, skipped] at anew
    rw [ih]
    exact anew.symm
  | case4 text next rest first leaves ih =>
    have plain : separateFlags.contains text = false := by
      rw [← Occurrence.takesNext_ofArgument text (some next)]
      exact Bool.eq_false_iff.mpr leaves
    have start : atFlagPosition ([text] ++ next :: rest) [text].length = true := by
      simp only [atFlagPosition, List.length_singleton, List.cons_append, List.getElem?_cons_zero,
        Option.any_some, plain]
      rfl
    rw [ih]
    exact (map_flagged_append [text] (next :: rest) start).symm

theorem occurrences_append (front rest : List String)
    (start : atFlagPosition front front.length = true) :
    occurrences (front ++ rest) =
      ((flagged front).map fun x => Occurrence.ofArgument x.1 (front ++ rest)[x.2 + 1]?) ++
        occurrences rest := by
  have before : (front.zipIdx.filter fun x => atFlagPosition (front ++ rest) x.2) = flagged front := by
    apply List.filter_congr
    intro x member
    exact atFlagPosition_append_left front rest x.2 (Nat.le_of_lt (List.snd_lt_of_mem_zipIdx member))
  rw [← atFlagPosition_append_left front rest front.length (Nat.le_refl _)] at start
  rw [occurrences_eq, map_flagged_append front rest start, before, ← occurrences_eq]

end DiagnosticSieve
