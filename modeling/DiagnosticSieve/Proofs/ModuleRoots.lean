import DiagnosticSieve.ModuleName
import DiagnosticSieve.Proofs.PathComponents

namespace DiagnosticSieve

open DiagnosticSieve.Path

/-- What a search for the longest path ends with is its start or one of the candidates, and none of them
is longer. -/
theorem foldl_longest (candidates : List (List Component)) (start : List Component) :
    let found := candidates.foldl (fun best r => if best.length ≤ r.length then r else best) start
    (found = start ∨ found ∈ candidates) ∧ start.length ≤ found.length ∧
      ∀ r ∈ candidates, r.length ≤ found.length := by
  induction candidates generalizing start with
  | nil => simp
  | cons first rest ih =>
    by_cases longer : start.length ≤ first.length
    · obtain ⟨origin, below, others⟩ := ih first
      simp only [List.foldl_cons, if_pos longer]
      refine ⟨.inr ?_, Nat.le_trans longer below, List.forall_mem_cons.mpr ⟨below, others⟩⟩
      exact List.mem_cons.mpr origin
    · obtain ⟨origin, below, others⟩ := ih start
      simp only [List.foldl_cons, if_neg longer]
      refine ⟨origin.imp_right (List.mem_cons_of_mem first), below,
        List.forall_mem_cons.mpr ⟨?_, others⟩⟩
      exact Nat.le_trans (Nat.le_of_not_le longer) below

structure IsLongestRoot (path : List Component) (roots : List (List Component))
    (found : List Component) : Prop where
  encloses : found <+: path
  listed : found = [] ∨ found ∈ roots
  longest : ∀ r ∈ roots, r <+: path → r.length ≤ found.length

theorem longestRoot_isLongestRoot (path : List Component) (roots : List (List Component)) :
    IsLongestRoot path roots (longestRoot path roots) := by
  have candidate : ∀ r, (r ∈ roots.filter fun r => r ≠ [] && r.isPrefixOf path) ↔
      r ∈ roots ∧ r ≠ [] ∧ r <+: path := by simp
  obtain ⟨origin, _, others⟩ := foldl_longest (roots.filter fun r => r ≠ [] && r.isPrefixOf path) []
  refine ⟨?_, ?_, ?_⟩
  · rcases origin with none | member
    · rw [longestRoot, none]
      exact List.nil_prefix
    · exact ((candidate _).mp member).2.2
  · exact origin.imp_right fun member => ((candidate _).mp member).1
  · intro r member below
    by_cases none : r = []
    · simp [none]
    · exact others r ((candidate r).mpr ⟨member, none, below⟩)

theorem IsLongestRoot.eq_of_covered {path : List Component} {roots others : List (List Component)}
    {found other : List Component} (first : IsLongestRoot path roots found)
    (second : IsLongestRoot path others other)
    (covered : ∀ r ∈ roots, r ≠ [] → r <+: path → r ∈ others)
    (covering : ∀ r ∈ others, r ≠ [] → r <+: path → r ∈ roots) : found = other := by
  have within {roots others : List (List Component)} {found other : List Component}
      (first : IsLongestRoot path roots found) (second : IsLongestRoot path others other)
      (covered : ∀ r ∈ roots, r ≠ [] → r <+: path → r ∈ others) : found.length ≤ other.length := by
    by_cases none : found = []
    · simp [none]
    · have member := first.listed.resolve_left none
      exact second.longest found (covered found member none first.encloses) first.encloses
  have short := within first second covered
  have long := within second first covering
  exact (List.prefix_of_prefix_length_le first.encloses second.encloses short).eq_of_length_le long

/-- Holds of a root that has components and that a file lies below: they are the first ones of the file. -/
def Encloses (root file : String) : Prop :=
  components root.toList ≠ [] ∧ components root.toList <+: components file.toList

instance (root file : String) : Decidable (Encloses root file) := inferInstanceAs (Decidable (_ ∧ _))

def strippedRoot (roots : List String) (file : String) : List Component :=
  longestRoot (components file.toList) (roots.map fun r => components r.toList)

theorem moduleName_eq (roots : List String) (file : String) :
    moduleName roots file =
      joinNames (withoutExtension ((components file.toList).drop (strippedRoot roots file).length)) :=
  rfl

theorem strippedRoot_eq_of_covered {roots others : List String} {file respelled : String}
    (sameFile : components file.toList = components respelled.toList)
    (covered : ∀ root ∈ roots, Encloses root file →
      ∃ other ∈ others, components root.toList = components other.toList)
    (covering : ∀ other ∈ others, Encloses other file →
      ∃ root ∈ roots, components other.toList = components root.toList) :
    strippedRoot roots file = strippedRoot others respelled := by
  have listed {roots others : List String}
      (covered : ∀ root ∈ roots, Encloses root file →
        ∃ other ∈ others, components root.toList = components other.toList) :
      ∀ r ∈ roots.map fun r => components r.toList, r ≠ [] → r <+: components file.toList →
        r ∈ others.map fun r => components r.toList := by
    intro r member some below
    obtain ⟨root, inside, rfl⟩ := List.mem_map.mp member
    obtain ⟨other, present, same⟩ := covered root inside ⟨some, below⟩
    exact List.mem_map.mpr ⟨other, present, same.symm⟩
  rw [strippedRoot, strippedRoot, ← sameFile]
  exact (longestRoot_isLongestRoot _ _).eq_of_covered (longestRoot_isLongestRoot _ _) (listed covered)
    (listed covering)

theorem strippedRoot_eq_of_same_enclosing {roots others : List String} {file : String}
    (same : ∀ root, Encloses root file → (root ∈ roots ↔ root ∈ others)) :
    strippedRoot roots file = strippedRoot others file :=
  strippedRoot_eq_of_covered rfl (fun root member below => ⟨root, (same root below).mp member, rfl⟩)
    fun other member below => ⟨other, (same other below).mpr member, rfl⟩

theorem moduleName_eq_of_strippedRoot {roots others : List String} {file : String}
    (same : strippedRoot roots file = strippedRoot others file) :
    moduleName roots file = moduleName others file := by
  rw [moduleName_eq, moduleName_eq, same]

/-- The module of a file depends on the components of its path, and on those of the roots that it lies
below; and texts have the same components where they differ in slashes and dots without meaning. What is
taken off a file does not depend on the order of the roots. -/
theorem module_depends_on_components (file respelled : String) (roots others : List String) :
    (components file.toList = components respelled.toList ↔
      Respelled file.toList respelled.toList) ∧
    (components file.toList = components respelled.toList →
      (∀ root ∈ roots, Encloses root file →
        ∃ other ∈ others, components root.toList = components other.toList) →
      (∀ other ∈ others, Encloses other file →
        ∃ root ∈ roots, components other.toList = components root.toList) →
      moduleName roots file = moduleName others respelled) ∧
    (roots.Perm others → strippedRoot roots file = strippedRoot others file) := by
  refine ⟨components_eq_iff _ _, ?_, ?_⟩
  · intro sameFile covered covering
    rw [moduleName_eq, moduleName_eq, strippedRoot_eq_of_covered sameFile covered covering, sameFile]
  · intro shuffled
    exact strippedRoot_eq_of_same_enclosing fun root _ => shuffled.mem_iff

/-- Two ways to spell the roots of a build, with roots that no file lies below and others that are no
part of a path. -/
def respelledRoots : List String × List String :=
  (["out/bin", "./out/bin/gen/", "", "src"], [".//.", "out//bin//gen", "out/./bin/.", "out/binary"])

theorem respelledRoots_agree :
    Respelled "./out//bin/gen/./a/b.js/".toList "out/bin/gen/a/b.js".toList ∧
    moduleName respelledRoots.1 "./out//bin/gen/./a/b.js/" =
      moduleName respelledRoots.2 "out/bin/gen/a/b.js" ∧
    moduleName respelledRoots.2 "out/bin/gen/a/b.js" = "a/b" ∧
    strippedRoot respelledRoots.2 "out/bin/gen/a/b.js" =
      strippedRoot respelledRoots.2.reverse "out/bin/gen/a/b.js" := by
  have rule := module_depends_on_components "./out//bin/gen/./a/b.js/" "out/bin/gen/a/b.js"
    respelledRoots.1 respelledRoots.2
  have order := module_depends_on_components "out/bin/gen/a/b.js" "out/bin/gen/a/b.js"
    respelledRoots.2 respelledRoots.2.reverse
  refine ⟨rule.1.mp (by decide), rule.2.1 (by decide) (by decide) (by decide), by decide, ?_⟩
  exact order.2.2 (List.reverse_perm _).symm

def IsRelative (path : String) : Prop := path.toList.head? ≠ some '/'

instance (path : String) : Decidable (IsRelative path) := inferInstanceAs (Decidable (_ ≠ _))

theorem components_below {root : String} (some : components root.toList ≠ []) {rest : String}
    (relative : IsRelative rest) :
    components (root ++ "/" ++ rest).toList = components root.toList ++ components rest.toList := by
  have nonempty : root.toList ≠ [] := by
    intro empty
    rw [empty] at some
    exact some rfl
  have text : (root ++ "/" ++ rest).toList = root.toList ++ '/' :: rest.toList := by
    simp [String.toList_append]
  rw [text, components_append_slash nonempty, components_of_relative relative]

/-- Holds of a root whose last component is only the beginning of a component of a file. -/
def MatchesPart (root file : String) : Prop :=
  ∃ (front rest : List Component) (part whole : Component),
    components root.toList = front ++ [part] ∧ components file.toList = front ++ whole :: rest ∧
      part.text <+: whole.text ∧ part.text ≠ whole.text

theorem MatchesPart.not_encloses {root file : String} (partly : MatchesPart root file) :
    ¬ Encloses root file := by
  intro ⟨_, below⟩
  obtain ⟨front, rest, part, whole, ofRoot, ofFile, _, apart⟩ := partly
  rw [ofRoot, ofFile, List.prefix_append_right_inj, List.cons_prefix_cons] at below
  exact apart (congrArg Component.text below.1)

/-- The longest root that a file lies below is taken off the file, so that its module is named as if
the file stood on its own; a root that a file does not lie below, such as one that only a part of a component
agrees with, takes nothing off. -/
theorem longest_root_is_stripped (roots : List String) :
    (∀ root ∈ roots, components root.toList ≠ [] → ∀ rest, IsRelative rest →
      (∀ other ∈ roots, (components root.toList).length < (components other.toList).length →
        ¬ components other.toList <+: components (root ++ "/" ++ rest).toList) →
      moduleName roots (root ++ "/" ++ rest) = moduleName [] rest) ∧
    (∀ file, (∀ root ∈ roots, ¬ Encloses root file) → moduleName roots file = moduleName [] file) ∧
    ∀ before root after file, roots = before ++ root :: after → MatchesPart root file →
      moduleName roots file = moduleName (before ++ after) file := by
  refine ⟨?_, ?_, ?_⟩
  · intro root member some rest relative longest
    have path := components_below some relative
    have below : components root.toList <+: components (root ++ "/" ++ rest).toList := by
      rw [path]
      exact List.prefix_append _ _
    have rival : IsLongestRoot (components (root ++ "/" ++ rest).toList)
        (roots.map fun r => components r.toList) (components root.toList) := by
      refine ⟨below, .inr (List.mem_map_of_mem member), ?_⟩
      intro r listed starts
      obtain ⟨other, inside, rfl⟩ := List.mem_map.mp listed
      exact Nat.le_of_not_lt fun longer => longest other inside longer starts
    have found : strippedRoot roots (root ++ "/" ++ rest) = components root.toList :=
      (longestRoot_isLongestRoot _ _).eq_of_covered rival (fun _ inside _ _ => inside)
        fun _ inside _ _ => inside
    rw [moduleName_eq, found, path, List.drop_left]
    rfl
  · intro file none
    -- Without enclosing roots it is as if there were no roots.
    apply moduleName_eq_of_strippedRoot
    apply strippedRoot_eq_of_same_enclosing
    intro root below
    exact ⟨fun member => absurd below (none root member), fun member => absurd member List.not_mem_nil⟩
  · intro before root after file split partly
    apply moduleName_eq_of_strippedRoot
    apply strippedRoot_eq_of_same_enclosing
    intro other below
    have apart : other ≠ root := fun same => partly.not_encloses (same ▸ below)
    simp [split, apart]

def nestedRoots : List String := ["/", "/w/../out", "/w/./../out/bin/", "/w/../out/b", "out"]

theorem nestedRoots_stripped :
    moduleName nestedRoots "/w/./../out/bin//./../x/a.min.js" = moduleName [] "./../x/a.min.js" ∧
    moduleName [] "./../x/a.min.js" = "x/a.min" ∧
    moduleName nestedRoots "outer/a.ts" = moduleName [] "outer/a.ts" ∧
    moduleName nestedRoots "/w/../out/binary/a.ts" =
      moduleName ["/", "/w/../out", "/w/./../out/bin/", "out"] "/w/../out/binary/a.ts" := by
  obtain ⟨strips, keeps, partly⟩ := longest_root_is_stripped nestedRoots
  refine ⟨?_, by decide, keeps "outer/a.ts" (by decide), ?_⟩
  · exact strips "/w/./../out/bin/" (by decide) (by decide) "./../x/a.min.js" (by decide) (by decide)
  · refine partly ["/", "/w/../out", "/w/./../out/bin/"] "/w/../out/b" ["out"] "/w/../out/binary/a.ts" rfl
      ⟨[.root, .name ['w'], .parent, .name "out".toList], [.name "a.ts".toList], .name ['b'],
        .name "binary".toList, ?_⟩
    decide

end DiagnosticSieve
