import DiagnosticSieve.Path

/-!
Components of paths, in terms of the pieces between slashes. What stands on both sides of a slash has
its components one after the other, components that are joined with slashes are split again, and two
texts have the same components exactly where they differ in doubled slashes, in slashes at the end and in
single dots.
-/

namespace DiagnosticSieve.Path

theorem split_eq_splitOn (text : List Char) : split text = text.splitOn '/' := by
  induction text with
  | nil => rfl
  | cons c rest ih =>
    rw [List.splitOn_cons_eq_if_modifyHead, ← ih, split]
    by_cases slash : c = '/'
    · simp [slash]
    · rw [if_neg slash, if_neg (by simpa using slash)]
      cases pieces : split rest with
      | nil => exact absurd (ih.symm.trans pieces) (List.splitOn_ne_nil '/' rest)
      | cons piece more => rfl

theorem split_append_slash (front back : List Char) :
    split (front ++ '/' :: back) = split front ++ split back := by
  simp only [split_eq_splitOn, List.splitOn_append_cons_self]

theorem split_of_not_mem {piece : List Char} (noSlash : '/' ∉ piece) : split piece = [piece] := by
  rw [split_eq_splitOn, List.splitOn_eq_singleton noSlash]

theorem split_intercalate {pieces : List (List Char)} (noSlash : ∀ piece ∈ pieces, '/' ∉ piece)
    (some : pieces ≠ []) : split (['/'].intercalate pieces) = pieces := by
  rw [split_eq_splitOn, List.splitOn_intercalate '/' noSlash some]

@[elab_as_elim]
theorem pieces_induction {motive : List Char → Prop}
    (last : ∀ piece, '/' ∉ piece → motive piece)
    (more : ∀ piece rest, '/' ∉ piece → motive rest → motive (piece ++ '/' :: rest))
    (text : List Char) : motive text := by
  by_cases slash : '/' ∈ text
  · obtain ⟨piece, rest, rfl, noSlash⟩ := List.eq_append_cons_of_mem slash
    exact more piece rest noSlash (pieces_induction last more rest)
  · exact last text slash
termination_by text.length

theorem not_mem_of_mem_split (text : List Char) : ∀ piece ∈ split text, '/' ∉ piece := by
  induction text using pieces_induction with
  | last piece noSlash =>
    rw [split_of_not_mem noSlash]
    simpa using noSlash
  | more piece rest noSlash ih =>
    rw [split_append_slash, split_of_not_mem noSlash]
    exact List.forall_mem_cons.mpr ⟨noSlash, ih⟩

namespace Component

/-- How a component is written. The root is nothing, with a slash behind it. -/
def text : Component → List Char
  | root => []
  | parent => ['.', '.']
  | name text => text

theorem ofPiece?_eq_none_iff (piece : List Char) : ofPiece? piece = none ↔ piece = [] ∨ piece = ['.'] := by
  unfold ofPiece?
  split <;> simp_all

theorem text_of_ofPiece? {piece : List Char} {c : Component} (told : ofPiece? piece = some c) :
    c.text = piece := by
  unfold ofPiece? at told
  split at told <;> cases told <;> rfl

structure IsSegment (c : Component) : Prop where
  told : ofPiece? c.text = some c
  noSlash : '/' ∉ c.text

theorem isSegment_of_ofPiece? {piece : List Char} {c : Component} (told : ofPiece? piece = some c)
    (noSlash : '/' ∉ piece) : c.IsSegment := by
  have written := text_of_ofPiece? told
  exact ⟨by rw [written, told], by rwa [written]⟩

theorem IsSegment.text_ne_nil {c : Component} (segment : c.IsSegment) : c.text ≠ [] := by
  intro empty
  have told := segment.told
  rw [empty] at told
  cases told

theorem IsSegment.ne_root {c : Component} (segment : c.IsSegment) : c ≠ .root := by
  intro root
  exact segment.text_ne_nil (by rw [root]; rfl)

end Component

theorem filterMap_told {path : List Component} (whole : ∀ c ∈ path, c.IsSegment) :
    path.filterMap (Component.ofPiece? ∘ Component.text) = path := by
  induction path with
  | nil => rfl
  | cons c rest ih =>
    rcases List.forall_mem_cons.mp whole with ⟨first, others⟩
    rw [List.filterMap_cons_some (f := Component.ofPiece? ∘ Component.text) first.told, ih others]

def segments (text : List Char) : List Component := (split text).filterMap Component.ofPiece?

theorem segments_append_slash (front back : List Char) :
    segments (front ++ '/' :: back) = segments front ++ segments back := by
  rw [segments, split_append_slash, List.filterMap_append]
  rfl

theorem segments_slash (text : List Char) : segments ('/' :: text) = segments text :=
  segments_append_slash [] text

theorem segments_dot_slash (text : List Char) : segments ('.' :: '/' :: text) = segments text :=
  segments_append_slash ['.'] text

theorem segments_of_not_mem {piece : List Char} (noSlash : '/' ∉ piece) :
    segments piece = (Component.ofPiece? piece).toList := by
  rw [segments, split_of_not_mem noSlash]
  cases told : Component.ofPiece? piece <;> simp [told]

theorem isSegment_of_mem_segments {text : List Char} {c : Component} (member : c ∈ segments text) :
    c.IsSegment := by
  obtain ⟨piece, inside, told⟩ := List.mem_filterMap.mp member
  exact Component.isSegment_of_ofPiece? told (not_mem_of_mem_split text piece inside)

theorem components_slash (rest : List Char) : components ('/' :: rest) = .root :: segments rest :=
  congrArg (List.cons Component.root) (segments_slash rest)

theorem components_of_relative {path : List Char} (relative : path.head? ≠ some '/') :
    components path = segments path := if_neg relative

theorem isSegment_of_mem_components {path : List Char} {c : Component} (member : c ∈ components path)
    (below : c ≠ .root) : c.IsSegment := by
  by_cases slash : path.head? = some '/'
  · obtain ⟨rest, rfl⟩ := List.head?_eq_some_iff.mp slash
    rw [components_slash] at member
    exact isSegment_of_mem_segments ((List.mem_cons.mp member).resolve_left below)
  · rw [components_of_relative slash] at member
    exact isSegment_of_mem_segments member

theorem components_append_slash {front : List Char} (some : front ≠ []) (back : List Char) :
    components (front ++ '/' :: back) = components front ++ segments back := by
  obtain ⟨c, rest, rfl⟩ := List.exists_cons_of_ne_nil some
  by_cases slash : c = '/'
  · rw [slash, List.cons_append, components_slash, components_slash, segments_append_slash]
    rfl
  · have relative : ∀ text : List Char, (c :: text).head? ≠ Option.some '/' := by simp [slash]
    rw [components_of_relative (relative rest), List.cons_append, components_of_relative (relative _),
      ← List.cons_append, segments_append_slash]

theorem components_append_slash_congr (front : List Char) {back other : List Char}
    (same : segments back = segments other) :
    components (front ++ '/' :: back) = components (front ++ '/' :: other) := by
  cases front with
  | nil => rw [List.nil_append, List.nil_append, components_slash, components_slash, same]
  | cons c front =>
    have some := List.cons_ne_nil c front
    rw [components_append_slash some, components_append_slash some, same]

def joined (path : List Component) : List Char := ['/'].intercalate (path.map Component.text)

theorem joined_cons {rest : List Component} (some : rest ≠ []) (c : Component) :
    joined (c :: rest) = c.text ++ '/' :: joined rest := by
  rw [joined, List.map_cons, List.intercalate_cons_of_ne_nil (by simpa using some)]
  simp [joined]

theorem joined_singleton {piece : List Char} {c : Component}
    (told : Component.ofPiece? piece = some c) : joined [c] = piece := by
  simp [joined, Component.text_of_ofPiece? told]

theorem head?_joined {path : List Component} (segments : ∀ c ∈ path, c.IsSegment) :
    (joined path).head? ≠ some '/' := by
  intro slash
  cases path with
  | nil => cases slash
  | cons c rest =>
    have first := segments c List.mem_cons_self
    have starts : (joined (c :: rest)).head? = c.text.head? := by
      cases rest with
      | nil => simp [joined]
      | cons d rest =>
        rw [joined_cons (List.cons_ne_nil d rest), List.head?_append,
          Option.or_of_isSome (by simpa using first.text_ne_nil)]
    rw [starts] at slash
    exact first.noSlash (List.mem_of_head? slash)

theorem components_joined {path : List Component} (whole : ∀ c ∈ path, c.IsSegment) :
    components (joined path) = path := by
  rw [components_of_relative (head?_joined whole)]
  cases path with
  | nil => rfl
  | cons first rest =>
    rw [segments, joined, split_intercalate (by simpa using fun c member => (whole c member).noSlash)
      (by simp), List.filterMap_map]
    exact filterMap_told whole

def written : List Component → List Char
  | .root :: rest => '/' :: joined rest
  | path => joined path

theorem written_of_isSegment {path : List Component} (whole : ∀ c ∈ path, c.IsSegment) :
    written path = joined path := by
  cases path with
  | nil => rfl
  | cons c rest =>
    cases c with
    | root => exact absurd rfl (whole .root List.mem_cons_self).ne_root
    | parent => rfl
    | name text => rfl

/-- Two texts of one path. One comes from the other by doubling slashes, by slashes at the end and by
single dots with a slash behind them, and by taking them away again. -/
inductive Respelled : List Char → List Char → Prop
  | doubled (front back : List Char) : Respelled (front ++ '/' :: '/' :: back) (front ++ '/' :: back)
  | dot (front back : List Char) : Respelled (front ++ '/' :: '.' :: '/' :: back) (front ++ '/' :: back)
  | leadingDot (path : List Char) (relative : path.head? ≠ some '/') :
      Respelled ('.' :: '/' :: path) path
  | trailing (path : List Char) (some : path ≠ []) : Respelled (path ++ ['/']) path
  | refl (path : List Char) : Respelled path path
  | symm {path other : List Char} (respelled : Respelled path other) : Respelled other path
  | trans {path middle other : List Char} (first : Respelled path middle)
      (second : Respelled middle other) : Respelled path other

namespace Respelled

theorem components_eq {path other : List Char} (respelled : Respelled path other) :
    components path = components other := by
  induction respelled with
  | doubled front back => exact components_append_slash_congr front (segments_slash back)
  | dot front back => exact components_append_slash_congr front (segments_dot_slash back)
  | leadingDot path relative =>
    rw [components_of_relative relative]
    exact segments_dot_slash path
  | trailing path some =>
    rw [components_append_slash some]
    exact List.append_nil _
  | refl => rfl
  | symm _ ih => exact ih.symm
  | trans _ _ first second => exact first.trans second

theorem joined_cons (front : List Char) {piece : List Char} {c : Component}
    (told : Component.ofPiece? piece = some c) (rest : List Component) :
    Respelled (front ++ piece ++ '/' :: joined rest) (front ++ joined (c :: rest)) := by
  cases rest with
  | nil =>
    have some : front ++ piece ≠ [] := by
      intro empty
      rw [(List.append_eq_nil_iff.mp empty).2] at told
      cases told
    rw [joined_singleton told]
    exact trailing _ some
  | cons d rest =>
    rw [Path.joined_cons (List.cons_ne_nil d rest), Component.text_of_ofPiece? told, List.append_assoc]
    exact refl _

theorem behind_slash (front text : List Char) :
    Respelled (front ++ '/' :: text) (front ++ '/' :: joined (segments text)) := by
  induction text using pieces_induction generalizing front with
  | last piece noSlash =>
    rw [segments_of_not_mem noSlash]
    cases told : Component.ofPiece? piece with
    | none =>
      rcases (Component.ofPiece?_eq_none_iff piece).mp told with rfl | rfl
      · exact refl _
      · have ended := trailing (front ++ ['/', '.']) (by simp)
        rw [List.append_assoc] at ended
        exact ended.symm.trans (dot front [])
    | some c =>
      rw [Option.toList_some, joined_singleton told]
      exact refl _
  | more piece rest noSlash ih =>
    rw [segments_append_slash, segments_of_not_mem noSlash]
    cases told : Component.ofPiece? piece with
    | none =>
      rcases (Component.ofPiece?_eq_none_iff piece).mp told with rfl | rfl
      · exact (doubled front rest).trans (ih front)
      · exact (dot front rest).trans (ih front)
    | some c =>
      have behind := ih (front ++ '/' :: piece)
      have join := joined_cons (front ++ ['/']) told (segments rest)
      simp only [List.append_assoc, List.cons_append, List.nil_append] at behind join
      exact behind.trans join

theorem of_relative {path : List Char} (relative : path.head? ≠ some '/') :
    Respelled path (joined (segments path)) := by
  induction path using pieces_induction with
  | last piece noSlash =>
    rw [segments_of_not_mem noSlash]
    cases told : Component.ofPiece? piece with
    | none =>
      rcases (Component.ofPiece?_eq_none_iff piece).mp told with rfl | rfl
      · exact refl _
      · exact (trailing ['.'] (by simp)).symm.trans (leadingDot [] (by simp))
    | some c =>
      rw [Option.toList_some, joined_singleton told]
      exact refl _
  | more piece rest noSlash _ =>
    have behind := behind_slash piece rest
    rw [segments_append_slash, segments_of_not_mem noSlash]
    cases told : Component.ofPiece? piece with
    | none =>
      rcases (Component.ofPiece?_eq_none_iff piece).mp told with rfl | rfl
      · exact absurd rfl relative
      · exact behind.trans (leadingDot _ (head?_joined fun c => isSegment_of_mem_segments))
    | some c => exact behind.trans (joined_cons [] told (segments rest))

theorem written (path : List Char) : Respelled path (written (components path)) := by
  by_cases slash : path.head? = some '/'
  · obtain ⟨rest, rfl⟩ := List.head?_eq_some_iff.mp slash
    rw [components_slash]
    exact behind_slash [] rest
  · rw [components_of_relative slash, written_of_isSegment fun c => isSegment_of_mem_segments]
    exact of_relative slash

end Respelled

/-- Texts have the same components exactly where they are texts of one path. -/
theorem components_eq_iff (path other : List Char) :
    components path = components other ↔ Respelled path other := by
  constructor
  · intro same
    have first := Respelled.written path
    rw [same] at first
    exact first.trans (Respelled.written other).symm
  · exact Respelled.components_eq

-- slashes and dots that do have a meaning
example : components "/a".toList ≠ components "a".toList ∧
    components "a/..".toList ≠ components "a/.".toList := by decide

end DiagnosticSieve.Path
