import DiagnosticSieve.Proofs.HeaderGrammar
import DiagnosticSieve.Proofs.ModuleRoots

namespace DiagnosticSieve

open DiagnosticSieve.Path Text

namespace Path

structure IsName (text : List Char) : Prop where
  nonempty : text ≠ []
  notDot : text ≠ ['.']
  notParent : text ≠ ['.', '.']
  noSlash : '/' ∉ text

instance (text : List Char) : Decidable (IsName text) :=
  decidable_of_iff (text ≠ [] ∧ text ≠ ['.'] ∧ text ≠ ['.', '.'] ∧ '/' ∉ text)
    ⟨fun ⟨nonempty, notDot, notParent, noSlash⟩ => ⟨nonempty, notDot, notParent, noSlash⟩,
      fun h => ⟨h.nonempty, h.notDot, h.notParent, h.noSlash⟩⟩

theorem ofPiece?_of_ne {piece : List Char} (nonempty : piece ≠ []) (notDot : piece ≠ ['.'])
    (notParent : piece ≠ ['.', '.']) : Component.ofPiece? piece = some (.name piece) := by
  unfold Component.ofPiece?
  split
  · exact absurd rfl nonempty
  · exact absurd rfl notDot
  · exact absurd rfl notParent
  · rfl

theorem isSegment_name_iff (text : List Char) : (Component.name text).IsSegment ↔ IsName text := by
  constructor
  · intro segment
    have told : Component.ofPiece? text = some (.name text) := segment.told
    refine ⟨segment.text_ne_nil, ?_, ?_, segment.noSlash⟩
    · intro dot
      rw [dot] at told
      cases told
    · intro parent
      rw [parent] at told
      cases told
  · intro h
    exact ⟨ofPiece?_of_ne h.nonempty h.notDot h.notParent, h.noSlash⟩

theorem splitExtension?_eq_some_iff (text stem extension : List Char) :
    splitExtension? text = some (stem, extension) ↔
      text = stem ++ '.' :: extension ∧ stem ≠ [] ∧ '.' ∉ extension := by
  constructor
  · intro found
    have parts := List.takeWhile_append_dropWhile (p := (· ≠ '.')) (l := text.reverse)
    unfold splitExtension? at found
    split at found
    · cases found
    · cases found
    · next dot before some behind =>
      cases found
      have isDot : dot = '.' := by
        have first := List.head?_dropWhile_not (· ≠ '.') text.reverse
        rw [behind] at first
        simpa using first
      rw [behind, isDot] at parts
      refine ⟨?_, by simpa using some, ?_⟩
      · calc
          text = (text.reverse.takeWhile (· ≠ '.') ++ '.' :: before).reverse := by
            rw [parts, List.reverse_reverse]
          _ = before.reverse ++ '.' :: (text.reverse.takeWhile (· ≠ '.')).reverse := by simp
      · intro member
        have inside := of_mem_takeWhile (List.mem_reverse.mp member)
        simp at inside
  · intro ⟨spelled, nonempty, absent⟩
    have inside := ne_of_absent (by simpa using absent : '.' ∉ extension.reverse)
    have back : text.reverse = extension.reverse ++ '.' :: stem.reverse := by simp [spelled]
    obtain ⟨c, rest, starts⟩ := List.exists_cons_of_ne_nil (List.reverse_ne_nil_iff.mpr nonempty)
    rw [splitExtension?, back, dropWhile_append_cons _ inside (by decide),
      takeWhile_append_cons _ inside (by decide), List.reverse_reverse, starts]
    show some ((c :: rest).reverse, extension) = _
    rw [← starts, List.reverse_reverse]

namespace Component

theorem stem_of_extension {stem extension : List Char} (source : extension ∈ sourceExtensions)
    (nonempty : stem ≠ []) : (name (stem ++ '.' :: extension)).stem = (ofPiece? stem).toList := by
  have absent : ∀ extension ∈ sourceExtensions, '.' ∉ extension := by decide
  have found := (splitExtension?_eq_some_iff _ stem extension).mpr
    ⟨rfl, nonempty, absent extension source⟩
  simp only [Component.stem, found, List.contains_iff_mem.mpr source, if_true]

theorem stem_of_no_extension {text : List Char}
    (plain : ∀ stem, ∀ extension ∈ sourceExtensions, text = stem ++ '.' :: extension → stem = []) :
    (name text).stem = [name text] := by
  rw [Component.stem]
  split
  · next stem extension found =>
    obtain ⟨spelled, nonempty, _⟩ := (splitExtension?_eq_some_iff text stem extension).mp found
    refine if_neg fun listed => nonempty ?_
    exact plain stem extension (List.contains_iff_mem.mp listed) spelled
  · rfl

theorem isSegment_of_mem_stem {c d : Component} (segment : c.IsSegment) (member : d ∈ c.stem) :
    d.IsSegment := by
  cases c with
  | root => exact absurd rfl segment.ne_root
  | parent => exact List.mem_singleton.mp member ▸ segment
  | name text =>
    rw [Component.stem] at member
    split at member
    · next stem extension found =>
      obtain ⟨spelled, _, _⟩ := (splitExtension?_eq_some_iff text stem extension).mp found
      split at member
      · have noSlash : '/' ∉ stem := by
          have whole : '/' ∉ text := segment.noSlash
          rw [spelled] at whole
          exact fun inside => whole (List.mem_append_left _ inside)
        exact isSegment_of_ofPiece? (Option.mem_toList.mp member) noSlash
      · exact List.mem_singleton.mp member ▸ segment
    · exact List.mem_singleton.mp member ▸ segment

end Component

theorem withoutExtension_append (front : List Component) (c : Component) :
    withoutExtension (front ++ [c]) = front ++ c.stem := by
  simp [withoutExtension]

theorem isSegment_of_mem_withoutExtension {path : List Component}
    (whole : ∀ c ∈ path, c ≠ .root → c.IsSegment) {c : Component} (member : c ∈ withoutExtension path)
    (below : c ≠ .root) : c.IsSegment := by
  rcases List.eq_nil_or_concat path with rfl | ⟨front, last, rfl⟩
  · cases member
  · rw [List.concat_eq_append] at whole member
    rw [withoutExtension_append] at member
    rcases List.mem_append.mp member with inside | behind
    · exact whole c (List.mem_append_left _ inside) below
    · by_cases root : last = .root
      · rw [root] at behind
        exact absurd (List.mem_singleton.mp behind) below
      · exact Component.isSegment_of_mem_stem (whole last (by simp) root) behind

theorem slashes_apart {text : List Char} (whole : ∀ piece ∈ split text, piece ≠ []) :
    text.head? ≠ some '/' ∧ text.getLast? ≠ some '/' ∧ ¬ ['/', '/'] <:+: text := by
  have starts (back : List Char) : [] ∈ split ('/' :: back) := by simp [split]
  have behind (front back : List Char) (empty : [] ∈ split back) :
      [] ∈ split (front ++ '/' :: back) := by
    rw [split_append_slash]
    exact List.mem_append_right _ empty
  refine ⟨?_, ?_, ?_⟩
  · intro leading
    obtain ⟨rest, rfl⟩ := List.head?_eq_some_iff.mp leading
    exact whole [] (starts rest) rfl
  · intro trailing
    obtain ⟨front, rfl⟩ := List.getLast?_eq_some_iff.mp trailing
    exact whole [] (behind front [] List.mem_cons_self) rfl
  · rintro ⟨front, back, doubled⟩
    rw [← doubled, List.append_assoc] at whole
    exact whole [] (behind front ('/' :: back) (starts back)) rfl

theorem name?_eq_some_iff (c : Component) (text : List Char) : c.name? = some text ↔ c = .name text := by
  cases c <;> simp [Component.name?]

end Path

theorem split_moduleName {roots : List String} {file : String} (named : moduleName roots file ≠ "") :
    ∀ piece ∈ split (moduleName roots file).toList, IsName piece := by
  rw [moduleName_eq] at named ⊢
  have text (path : List Component) : (joinNames path).toList =
      ['/'].intercalate (path.filterMap Component.name?) := by
    simp [joinNames, Function.comp_def]
  have names : ∀ piece ∈ (withoutExtension ((components file.toList).drop
      (strippedRoot roots file).length)).filterMap Component.name?, IsName piece := by
    intro piece member
    obtain ⟨c, inside, found⟩ := List.mem_filterMap.mp member
    obtain rfl := (name?_eq_some_iff c piece).mp found
    refine (isSegment_name_iff piece).mp (isSegment_of_mem_withoutExtension ?_ inside (by simp))
    exact fun d present => isSegment_of_mem_components (List.mem_of_mem_drop present)
  rw [text, split_intercalate fun piece member => (names piece member).noSlash]
  · exact names
  · intro none
    exact named (by rw [← String.toList_inj, text, none]; rfl)

def slashed (names : List String) : String := String.intercalate "/" names

/-- Holds of the name of a source file, for what stands before the dot and its extension. -/
def IsStem (stem name : String) : Prop :=
  ∃ extension ∈ ["js", "mjs", "jsx", "ts"], name = stem ++ "." ++ extension

theorem isStem_iff (stem name : String) :
    IsStem stem name ↔
      ∃ extension ∈ sourceExtensions, name.toList = stem.toList ++ '.' :: extension := by
  have extensions : sourceExtensions = ["js", "mjs", "jsx", "ts"].map String.toList := rfl
  constructor
  · intro ⟨extension, member, spelled⟩
    exact ⟨extension.toList, List.mem_map_of_mem member, by simp [spelled, String.toList_append]⟩
  · intro ⟨extension, member, spelled⟩
    rw [extensions] at member
    obtain ⟨text, inside, rfl⟩ := List.mem_map.mp member
    exact ⟨text, inside, by rw [← String.toList_inj]; simp [spelled, String.toList_append]⟩

theorem components_slashed {names : List String} (whole : ∀ name ∈ names, IsName name.toList) :
    components (slashed names).toList = names.map fun name => .name name.toList := by
  have text : (slashed names).toList = joined (names.map fun name => .name name.toList) := by
    simp [slashed, joined, Function.comp_def, Component.text]
  rw [text, components_joined]
  intro c member
  obtain ⟨name, inside, rfl⟩ := List.mem_map.mp member
  exact (isSegment_name_iff _).mpr (whole name inside)

theorem moduleName_slashed {names : List String} {last : String}
    (whole : ∀ name ∈ names ++ [last], IsName name.toList) :
    moduleName [] (slashed (names ++ [last])) =
      slashed (names ++
        ((Component.name last.toList).stem.filterMap Component.name?).map String.ofList) := by
  rw [moduleName_eq, components_slashed whole]
  have kept : strippedRoot [] (slashed (names ++ [last])) = [] := rfl
  rw [kept, List.length_nil, List.drop_zero, List.map_append]
  have plain : (names.map fun name => Component.name name.toList).filterMap Component.name? =
      names.map String.toList := by
    simp [List.filterMap_map, Function.comp_def, Component.name?]
  rw [List.map_singleton, withoutExtension_append, joinNames, List.filterMap_append, plain]
  simp [slashed, Function.comp_def]

/-- The name of a module is made of names between single slashes. A path of plain names keeps all of
them but for the source extension of the last one; a stem that is no name leaves nothing behind. -/
theorem module_names_are_plain :
    (∀ roots file, moduleName roots file ≠ "" →
      (∀ piece ∈ split (moduleName roots file).toList, IsName piece) ∧
      (moduleName roots file).toList.head? ≠ some '/' ∧
      (moduleName roots file).toList.getLast? ≠ some '/' ∧
      ¬ ['/', '/'] <:+: (moduleName roots file).toList) ∧
    ∀ names last, (∀ name ∈ names ++ [last], IsName name.toList) →
      (∀ stem, IsStem stem last → stem ∉ ["", ".", ".."] →
        moduleName [] (slashed (names ++ [last])) = slashed (names ++ [stem])) ∧
      (∀ stem ∈ [".", ".."], IsStem stem last →
        moduleName [] (slashed (names ++ [last])) = slashed names) ∧
      ((∀ stem, IsStem stem last → stem = "") →
        moduleName [] (slashed (names ++ [last])) = slashed (names ++ [last])) := by
  constructor
  · intro roots file named
    have pieces := split_moduleName named
    exact ⟨pieces, slashes_apart fun piece member => (pieces piece member).nonempty⟩
  · intro names last whole
    rw [moduleName_slashed whole]
    refine ⟨?_, ?_, ?_⟩
    · intro stem source named
      obtain ⟨extension, member, spelled⟩ := (isStem_iff stem last).mp source
      have differs (text : String) (listed : text ∈ ["", ".", ".."]) : stem.toList ≠ text.toList :=
        fun same => named (String.toList_inj.mp same ▸ listed)
      have nonempty : stem.toList ≠ [] := differs "" (by simp)
      have kept := ofPiece?_of_ne nonempty (differs "." (by simp)) (differs ".." (by simp))
      rw [spelled, Component.stem_of_extension member nonempty, kept]
      simp [Component.name?]
    · intro stem dots source
      obtain ⟨extension, member, spelled⟩ := (isStem_iff stem last).mp source
      simp only [List.mem_cons, List.not_mem_nil, or_false] at dots
      have nonempty : stem.toList ≠ [] := by rcases dots with rfl | rfl <;> simp
      have nameless : (Component.ofPiece? stem.toList).toList.filterMap Component.name? = [] := by
        rcases dots with rfl | rfl <;> rfl
      rw [spelled, Component.stem_of_extension member nonempty, nameless]
      exact congrArg slashed (List.append_nil names)
    · intro plain
      have kept : (Component.name last.toList).stem = [.name last.toList] := by
        apply Component.stem_of_no_extension
        intro stem extension member spelled
        have source : IsStem (String.ofList stem) last :=
          (isStem_iff _ last).mpr ⟨extension, member, by rw [spelled, String.toList_ofList]⟩
        simpa using plain _ source
      rw [kept]
      simp [Component.name?]

/-- Names with dots everywhere, and what is left of them. -/
theorem dottedNames_named :
    (∀ piece ∈ split (moduleName ["../w", "/"] "/../w//.x.js/..../../a.b.ts").toList, IsName piece) ∧
    moduleName ["../w", "/"] "/../w//.x.js/..../../a.b.ts" = "w/.x.js/..../a.b" ∧
    moduleName [] (slashed ["a.ts", ".js", ".jsx.mjs"]) = slashed ["a.ts", ".js", ".jsx"] ∧
    moduleName [] (slashed ["a.ts", "...js"]) = slashed ["a.ts"] ∧
    moduleName [] (slashed ["a.ts", ".js"]) = slashed ["a.ts", ".js"] := by
  obtain ⟨shape, spelled⟩ := module_names_are_plain
  have unnamed : ∀ stem, IsStem stem ".js" → stem = "" := by
    intro stem source
    obtain ⟨extension, _, spelled⟩ := (isStem_iff stem ".js").mp source
    cases letters : stem.toList with
    | nil => exact String.toList_eq_nil_iff.mp letters
    | cons c rest =>
      rw [letters] at spelled
      have behind : ['j', 's'] = rest ++ '.' :: extension := (List.cons.inj spelled).2
      have dot : '.' ∈ ['j', 's'] := behind ▸ List.mem_append_right rest List.mem_cons_self
      exact absurd dot (by decide)
  refine ⟨(shape _ _ (by decide)).1, by decide, ?_, ?_, ?_⟩
  · exact (spelled ["a.ts", ".js"] ".jsx.mjs" (by decide)).1 ".jsx" ⟨"mjs", by decide, rfl⟩ (by decide)
  · exact (spelled ["a.ts"] "...js" (by decide)).2.1 ".." (by decide) ⟨"js", by decide, rfl⟩
  · exact (spelled ["a.ts"] ".js" (by decide)).2.2 unnamed

end DiagnosticSieve
