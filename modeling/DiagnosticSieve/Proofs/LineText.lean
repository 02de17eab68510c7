import DiagnosticSieve.Text.Basic

/-!
Lines of texts that are put together. What is joined from lines is split into the same lines again, as
long as no line is empty and none contains a line feed or a carriage return; what is split into lines is
written again by ending each line, as long as there is no carriage return; and behind a text whose last
line is ended, another text keeps its lines.
-/

namespace DiagnosticSieve.Text

structure Unbroken (text : List Char) : Prop where
  noLineFeed : '\n' ∉ text
  noReturn : '\r' ∉ text

theorem unbroken_append_iff (front back : List Char) :
    Unbroken (front ++ back) ↔ Unbroken front ∧ Unbroken back := by
  constructor
  · intro ⟨noLineFeed, noReturn⟩
    rw [List.mem_append, not_or] at noLineFeed noReturn
    exact ⟨⟨noLineFeed.1, noReturn.1⟩, noLineFeed.2, noReturn.2⟩
  · intro ⟨front, back⟩
    exact ⟨by simp [front.noLineFeed, back.noLineFeed], by simp [front.noReturn, back.noReturn]⟩

instance (text : List Char) : Decidable (Unbroken text) :=
  decidable_of_iff ('\n' ∉ text ∧ '\r' ∉ text)
    ⟨fun ⟨feed, back⟩ => ⟨feed, back⟩, fun whole => ⟨whole.noLineFeed, whole.noReturn⟩⟩

/-- A line that can be told from those around it. -/
structure IsLine (line : List Char) : Prop extends Unbroken line where
  nonempty : line ≠ []

theorem lines_cons (c : Char) (rest : List Char) (noLineFeed : c ≠ '\n')
    (noReturn : ∀ more, c = '\r' → rest ≠ '\n' :: more) :
    lines (c :: rest) =
      match lines rest with
      | [] => [[c]]
      | line :: more => (c :: line) :: more :=
  lines.eq_4 c rest noLineFeed noReturn

theorem lines_append_lineFeed (line rest : List Char) (noLineFeed : '\n' ∉ line)
    (noReturn : '\r' ∉ line) : lines (line ++ '\n' :: rest) = line :: lines rest := by
  induction line with
  | nil => rfl
  | cons c line ih =>
    have feed := List.ne_of_not_mem_cons noLineFeed
    have back := List.ne_of_not_mem_cons noReturn
    rw [List.cons_append, lines_cons c _ feed.symm fun _ here => absurd here back.symm,
      ih (List.not_mem_of_not_mem_cons noLineFeed) (List.not_mem_of_not_mem_cons noReturn)]

theorem lines_eq_singleton {line : List Char} (noLineFeed : '\n' ∉ line) (nonempty : line ≠ []) :
    lines line = [line] := by
  induction line with
  | nil => exact absurd rfl nonempty
  | cons c line ih =>
    have feed := List.ne_of_not_mem_cons noLineFeed
    have others := List.not_mem_of_not_mem_cons noLineFeed
    rw [lines_cons c _ feed.symm fun more _ starts => others (by simp [starts])]
    by_cases last : line = []
    · rw [last]
      rfl
    · rw [ih others last]

theorem IsLine.lines_eq {line : List Char} (whole : IsLine line) : lines line = [line] :=
  lines_eq_singleton whole.noLineFeed whole.nonempty

theorem toList_joinLines_cons_cons (first second : String) (texts : List String) :
    (joinLines (first :: second :: texts)).toList =
      first.toList ++ '\n' :: (joinLines (second :: texts)).toList := by
  simp [joinLines, String.intercalate_cons_cons, String.toList_append]

theorem joinLines_singleton (text : String) : joinLines [text] = text := String.intercalate_singleton

theorem lines_joinLines (texts : List String) (whole : ∀ text ∈ texts, IsLine text.toList) :
    lines (joinLines texts).toList = texts.map String.toList := by
  induction texts with
  | nil => rfl
  | cons first texts ih =>
    have head := whole first List.mem_cons_self
    cases texts with
    | nil => rw [joinLines_singleton, head.lines_eq]; rfl
    | cons second texts =>
      rw [toList_joinLines_cons_cons, lines_append_lineFeed _ _ head.noLineFeed head.noReturn,
        ih fun text member => whole text (List.mem_cons_of_mem first member)]
      rfl

theorem stringLines_joinLines (texts : List String) (whole : ∀ text ∈ texts, IsLine text.toList) :
    stringLines (joinLines texts) = texts := by
  rw [stringLines, lines_joinLines texts whole, List.map_map]
  simp [Function.comp_def]

theorem joinLines_ne_empty {texts : List String} {text : String} (member : text ∈ texts)
    (nonempty : text ≠ "") : joinLines texts ≠ "" := by
  induction texts with
  | nil => cases member
  | cons first texts ih =>
    cases texts with
    | nil =>
      rw [joinLines_singleton]
      exact List.mem_singleton.mp member ▸ nonempty
    | cons second texts =>
      intro empty
      have chars := toList_joinLines_cons_cons first second texts
      rw [empty] at chars
      simp at chars

theorem lines_eq_nil_iff (text : List Char) : lines text = [] ↔ text = [] := by
  constructor
  · intro none
    induction text using lines.induct with
    | case1 => rfl
    | case2 | case3 => cases none
    | case4 c rest noLineFeed noReturn last ih =>
      rw [lines_cons c rest noLineFeed noReturn, last] at none
      cases none
    | case5 c rest noLineFeed noReturn first more split ih =>
      rw [lines_cons c rest noLineFeed noReturn, split] at none
      cases none
  · intro none
    rw [none]
    rfl

/-- A text with no line that is still to be ended. -/
def Closed (text : List Char) : Prop := text = [] ∨ text.getLast? = some '\n'

instance (text : List Char) : Decidable (Closed text) := inferInstanceAs (Decidable (_ ∨ _))

theorem closed_cons_iff (c : Char) (rest : List Char) :
    Closed (c :: rest) ↔ Closed rest ∧ (rest = [] → c = '\n') := by
  cases rest with
  | nil => simp [Closed]
  | cons d rest => simp [Closed]

/-- Behind a text whose last line is ended, the lines of another text stand on their own. -/
theorem lines_append {front : List Char} (closed : Closed front) (back : List Char) :
    lines (front ++ back) = lines front ++ lines back := by
  induction front using lines.induct with
  | case1 => rfl
  | case2 rest ih =>
    rw [closed_cons_iff] at closed
    exact congrArg (List.cons []) (ih closed.1)
  | case3 rest ih =>
    rw [closed_cons_iff, closed_cons_iff] at closed
    exact congrArg (List.cons []) (ih closed.1.1)
  | case4 c rest noLineFeed noReturn last ih =>
    rw [closed_cons_iff] at closed
    exact absurd (closed.2 ((lines_eq_nil_iff rest).mp last)) noLineFeed
  | case5 c rest noLineFeed noReturn first more split ih =>
    rw [closed_cons_iff] at closed
    have apart : ∀ others, c = '\r' → rest ++ back ≠ '\n' :: others := by
      intro others isReturn starts
      cases rest with
      | nil => exact noLineFeed (closed.2 rfl)
      | cons d rest =>
        rw [List.cons_append] at starts
        exact noReturn rest isReturn (by rw [(List.cons.inj starts).1])
    calc
      lines (c :: rest ++ back) = lines (c :: (rest ++ back)) := rfl
      _ = (c :: first) :: (more ++ lines back) := by
        rw [lines_cons c _ noLineFeed apart, ih closed.1, split]
        rfl
      _ = lines (c :: rest) ++ lines back := by
        rw [lines_cons c rest noLineFeed noReturn, split]
        rfl

theorem flatMap_lines {text : List Char} (noReturn : '\r' ∉ text) (unended : ¬ Closed text) :
    (lines text).flatMap (· ++ ['\n']) = text ++ ['\n'] := by
  induction text using lines.induct with
  | case1 => exact absurd (.inl rfl) unended
  | case2 rest ih =>
    have behind : ¬ Closed rest := fun closed =>
      unended ((closed_cons_iff _ _).mpr ⟨closed, fun _ => rfl⟩)
    exact congrArg (List.cons '\n') (ih (List.not_mem_of_not_mem_cons noReturn) behind)
  | case3 rest ih => exact absurd List.mem_cons_self noReturn
  | case4 c rest noLineFeed _ last ih =>
    rw [(lines_eq_nil_iff rest).mp last]
    rw [lines_eq_singleton (by simp [Ne.symm noLineFeed]) (List.cons_ne_nil c [])]
    rfl
  | case5 c rest noLineFeed others first more split ih =>
    have some : rest ≠ [] := by
      intro none
      rw [none] at split
      cases split
    have behind : ¬ Closed rest := fun closed =>
      unended ((closed_cons_iff _ _).mpr ⟨closed, fun none => absurd none some⟩)
    have tail := ih (List.not_mem_of_not_mem_cons noReturn) behind
    rw [split] at tail
    rw [lines_cons c rest noLineFeed others, split]
    exact congrArg (List.cons c) tail

def endLines (texts : List String) : String := String.join (texts.map (· ++ "\n"))

theorem endLines_cons (text : String) (texts : List String) :
    endLines (text :: texts) = text ++ "\n" ++ endLines texts := by
  rw [endLines, List.map_cons, String.join_cons]
  rfl

theorem endLines_eq_empty_iff (texts : List String) : endLines texts = "" ↔ texts = [] := by
  cases texts with
  | nil => exact ⟨fun _ => rfl, fun _ => rfl⟩
  | cons text texts =>
    rw [endLines_cons, ← String.toList_inj]
    simp [String.toList_append]

theorem endLines_append (front back : List String) :
    endLines (front ++ back) = endLines front ++ endLines back := by
  rw [endLines, List.map_append, String.join_append]
  rfl

theorem joinLines_append_lineFeed {texts : List String} (some : texts ≠ []) :
    joinLines texts ++ "\n" = endLines texts := by
  induction texts with
  | nil => exact absurd rfl some
  | cons first texts ih =>
    cases texts with
    | nil =>
      rw [joinLines_singleton, endLines_cons]
      exact String.append_empty.symm
    | cons second texts =>
      calc
        joinLines (first :: second :: texts) ++ "\n" =
            first ++ "\n" ++ joinLines (second :: texts) ++ "\n" := by
          rw [joinLines, String.intercalate_cons_cons]
          rfl
        _ = first ++ "\n" ++ endLines (second :: texts) := by
          rw [String.append_assoc, ih (List.cons_ne_nil _ _)]
        _ = endLines (first :: second :: texts) := (endLines_cons ..).symm

theorem endLines_stringLines {text : String} (noReturn : '\r' ∉ text.toList)
    (unended : ¬ Closed text.toList) : endLines (stringLines text) = text ++ "\n" := by
  rw [← String.toList_inj, String.toList_append]
  calc
    (endLines (stringLines text)).toList = (lines text.toList).flatMap (· ++ ['\n']) := by
      simp [endLines, stringLines, String.toList_join, List.flatMap_map, String.toList_append]
    _ = text.toList ++ "\n".toList := flatMap_lines noReturn unended

theorem endLines_flatMap_stringLines (texts : List String)
    (whole : ∀ text ∈ texts, '\r' ∉ text.toList ∧ ¬ Closed text.toList) :
    endLines (texts.flatMap stringLines) = endLines texts := by
  induction texts with
  | nil => rfl
  | cons text texts ih =>
    rcases List.forall_mem_cons.mp whole with ⟨⟨noReturn, unended⟩, others⟩
    rw [List.flatMap_cons, endLines_append, endLines_stringLines noReturn unended, ih others,
      endLines_cons]

theorem of_mem_lines {text line : List Char} (member : line ∈ lines text) :
    '\n' ∉ line ∧ ∀ c ∈ line, c ∈ text := by
  induction text using lines.induct generalizing line with
  | case1 => cases member
  | case2 rest ih =>
    rcases List.mem_cons.mp member with rfl | inside
    · simp
    · obtain ⟨noLineFeed, chars⟩ := ih inside
      exact ⟨noLineFeed, fun c present => List.mem_cons_of_mem _ (chars c present)⟩
  | case3 rest ih =>
    rcases List.mem_cons.mp member with rfl | inside
    · simp
    · obtain ⟨noLineFeed, chars⟩ := ih inside
      exact ⟨noLineFeed, fun c present =>
        List.mem_cons_of_mem _ (List.mem_cons_of_mem _ (chars c present))⟩
  | case4 c rest noLineFeed noReturn last ih =>
    rw [lines_cons c rest noLineFeed noReturn, last, List.mem_singleton] at member
    rw [member]
    simp [Ne.symm noLineFeed]
  | case5 c rest noLineFeed noReturn first more split ih =>
    rw [lines_cons c rest noLineFeed noReturn, split] at member
    rw [split] at ih
    rcases List.mem_cons.mp member with rfl | inside
    · obtain ⟨feed, chars⟩ := ih List.mem_cons_self
      exact ⟨List.not_mem_cons_of_ne_of_not_mem (Ne.symm noLineFeed) feed,
        fun d present => List.mem_cons.mpr ((List.mem_cons.mp present).imp_right (chars d))⟩
    · obtain ⟨feed, chars⟩ := ih (List.mem_cons_of_mem _ inside)
      exact ⟨feed, fun d present => List.mem_cons_of_mem _ (chars d present)⟩

end DiagnosticSieve.Text
