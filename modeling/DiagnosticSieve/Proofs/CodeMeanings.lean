import DiagnosticSieve.Proofs.CodeSpellings
import DiagnosticSieve.Proofs.PolicyFaults

namespace DiagnosticSieve

namespace Text

theorem trim_append_blanks {front back : List Char} (before : allBlank front = true)
    (behind : allBlank back = true) (text : List Char) : trim (front ++ text ++ back) = trim text := by
  have start : (front ++ text ++ back).dropWhile isBlank = (text ++ back).dropWhile isBlank := by
    rw [List.append_assoc, List.dropWhile_append_of_pos (List.all_eq_true.mp before)]
  have ends : ∀ c ∈ back.reverse, isBlank c = true := fun c member =>
    List.all_eq_true.mp behind c (List.mem_reverse.mp member)
  rw [trim, trim, start, List.dropWhile_append]
  by_cases blank : text.dropWhile isBlank = []
  · rw [blank, if_pos (by rfl), (dropWhile_isBlank_eq_nil_iff back).mpr behind]
  · rw [if_neg (by simpa using blank), List.reverse_append, List.dropWhile_append_of_pos ends]

theorem trim_eq_self_iff (text : List Char) :
    trim text = text ↔ text.dropWhile isBlank = text ∧ text.reverse.dropWhile isBlank = text.reverse := by
  constructor
  · intro trimmed
    have front : text.dropWhile isBlank = text := by
      apply (List.dropWhile_suffix isBlank).eq_of_length_le
      calc
        text.length = (trim text).length := by rw [trimmed]
        _ ≤ (text.dropWhile isBlank).length := by
          have kept := (List.dropWhile_suffix isBlank (l := (text.dropWhile isBlank).reverse)).length_le
          rw [List.length_reverse] at kept
          rwa [trim, List.length_reverse]
    rw [trim, front, ← List.reverse_inj, List.reverse_reverse] at trimmed
    exact ⟨front, trimmed⟩
  · intro kept
    rw [trim, kept.1, kept.2, List.reverse_reverse]

theorem trim_append_of_clear {front text : List Char} (clear : ∀ c ∈ front, isBlank c = false)
    (trimmed : trim text = text) : trim (front ++ text) = front ++ text := by
  have clearBack : ∀ c ∈ front.reverse, isBlank c = false := fun c member =>
    clear c (List.mem_reverse.mp member)
  obtain ⟨start, ends⟩ := (trim_eq_self_iff text).mp trimmed
  refine (trim_eq_self_iff _).mpr ⟨?_, ?_⟩
  · cases front with
    | nil => exact start
    | cons c front => exact List.dropWhile_cons_of_neg (by simp [clear c List.mem_cons_self])
  · rw [List.reverse_append, List.dropWhile_append, ends, dropWhile_isBlank_eq_self clearBack]
    split
    · next none => rw [List.isEmpty_iff.mp none, List.nil_append]
    · rfl

theorem not_prefix_of_test {front text : List Char} (tested : (!front.isPrefixOf text) = true) :
    ¬ front <+: text := by
  rw [Bool.not_eq_true'] at tested
  rw [← List.isPrefixOf_iff_prefix, tested]
  exact Bool.false_ne_true

end Text

open Text

def trimmed (code : String) : String := String.ofList (trim code.toList)

theorem toList_trimmed (code : String) : (trimmed code).toList = trim code.toList :=
  String.toList_ofList

theorem toList_toUpper (text : String) : text.toUpper.toList = text.toList.map Char.toUpper :=
  String.toList_map

theorem Group.ofName?_eq_some_iff (code : String) (g : Group) :
    ofName? code = some g ↔ trimmed code = g.name :=
  (find?_named (fun _ _ => name_inj) (trimmed code) g (mem_all g)).trans eq_comm

namespace Kind

def IsSpelling (k : Kind) (text : String) : Prop := text = k.key ∨ text = k.bareKey

instance (k : Kind) (text : String) : Decidable (k.IsSpelling text) :=
  inferInstanceAs (Decidable (_ ∨ _))

theorem toList_key (k : Kind) : k.key.toList = "JSC_".toList ++ k.bareKey.toList := by
  rw [key, String.toList_append]

theorem bareKey_unprefixed (k : Kind) : ¬ "JSC_".toList <+: k.bareKey.toList := by
  apply not_prefix_of_test
  cases k <;> exact holds_toList_ofList (fun text => !"JSC_".toList.isPrefixOf text) rfl

theorem key_ne_bareKey (j k : Kind) : j.key ≠ k.bareKey := by
  intro same
  apply k.bareKey_unprefixed
  rw [← same, toList_key]
  exact List.prefix_append _ _

theorem IsSpelling.unique {j k : Kind} {text : String} (first : j.IsSpelling text)
    (second : k.IsSpelling text) : j = k := by
  rcases first with keyed | bare <;> rcases second with keyed' | bare'
  · have same : "JSC_" ++ j.bareKey = "JSC_" ++ k.bareKey := keyed.symm.trans keyed'
    exact bareKey_inj ((String.append_right_inj _).mp same)
  · exact absurd (keyed.symm.trans bare') (key_ne_bareKey j k)
  · exact absurd (keyed'.symm.trans bare) (key_ne_bareKey k j)
  · exact bareKey_inj (bare.symm.trans bare')

theorem bareSpelling_eq_iff (code : List Char) (k : Kind) :
    bareSpelling code = k.bareKey.toList ↔
      (trim code).map Char.toUpper = k.key.toList ∨ (trim code).map Char.toUpper = k.bareKey.toList := by
  rw [toList_key]
  unfold bareSpelling
  split
  · next rest spelled =>
    rw [spelled]
    constructor
    · intro bare
      exact .inl (congrArg ("JSC_".toList ++ ·) bare)
    · intro either
      rcases either with keyed | bare
      · have same : "JSC_".toList ++ rest = "JSC_".toList ++ k.bareKey.toList := keyed
        exact List.append_cancel_left same
      · exact absurd ⟨rest, bare⟩ k.bareKey_unprefixed
  · next unprefixed =>
    exact ⟨.inr, fun either => either.resolve_left fun keyed => unprefixed _ keyed⟩

theorem ofKey?_eq_some_iff (code : String) (k : Kind) :
    ofKey? code = some k ↔ k.IsSpelling (trimmed code).toUpper := by
  rw [ofKey?, find?_named (fun _ _ => bareKey_inj) _ k (mem_all k), IsSpelling, ← String.toList_inj,
    ← String.toList_inj, ← String.toList_inj, toList_toUpper, toList_trimmed, String.toList_ofList,
    ← bareSpelling_eq_iff]
  exact eq_comm

end Kind

/-- What a text between blanks stands for. The name of a group is told by its letters, and comes first;
the spellings of a kind are told in upper case. -/
inductive StandsFor (text : String) : List Kind → Prop
  | group (g : Group) (named : text = g.name) : StandsFor text (Kind.all.filter (·.group = g))
  | kind (k : Kind) (unnamed : ∀ g : Group, text ≠ g.name) (spelled : k.IsSpelling text.toUpper) :
      StandsFor text [k]

theorem kindsOfCode?_eq_some_iff (code : String) (kinds : List Kind) :
    kindsOfCode? code = some kinds ↔ StandsFor (trimmed code) kinds := by
  rw [kindsOfCode?]
  constructor
  · intro found
    split at found
    · next g named =>
      cases found
      exact .group g ((Group.ofName?_eq_some_iff code g).mp named)
    · next unnamed =>
      obtain ⟨k, spelled, rfl⟩ := Option.map_eq_some_iff.mp found
      refine .kind k ?_ ((Kind.ofKey?_eq_some_iff code k).mp spelled)
      intro g named
      rw [(Group.ofName?_eq_some_iff code g).mpr named] at unnamed
      cases unnamed
  · intro stands
    cases stands with
    | group g named => rw [(Group.ofName?_eq_some_iff code g).mpr named]; rfl
    | kind k unnamed spelled =>
      have none : Group.ofName? code = none := by
        rw [Option.eq_none_iff_forall_ne_some]
        exact fun g named => unnamed g ((Group.ofName?_eq_some_iff code g).mp named)
      rw [none, (Kind.ofKey?_eq_some_iff code k).mpr spelled]
      rfl

theorem kindsOfCode?_congr {code other : String}
    (same : ∀ kinds, StandsFor (trimmed code) kinds ↔ StandsFor (trimmed other) kinds) :
    kindsOfCode? code = kindsOfCode? other := by
  apply Option.ext
  intro kinds
  rw [kindsOfCode?_eq_some_iff, kindsOfCode?_eq_some_iff, same]

theorem standsFor_iff_of_unnamed {text : String} (unnamed : ∀ g : Group, text ≠ g.name)
    (kinds : List Kind) :
    StandsFor text kinds ↔ ∃ k : Kind, k.IsSpelling text.toUpper ∧ kinds = [k] := by
  constructor
  · intro stands
    cases stands with
    | group g named => exact absurd named (unnamed g)
    | kind k _ spelled => exact ⟨k, spelled, rfl⟩
  · intro ⟨k, spelled, alone⟩
    rw [alone]
    exact .kind k unnamed spelled

theorem kindsOfCode?_blanks {front back : String} (before : allBlank front.toList = true)
    (behind : allBlank back.toList = true) (code : String) :
    kindsOfCode? (front ++ code ++ back) = kindsOfCode? code := by
  have same : trimmed (front ++ code ++ back) = trimmed code := by
    rw [trimmed, String.toList_append, String.toList_append, trim_append_blanks before behind, trimmed]
  exact kindsOfCode?_congr fun kinds => by rw [same]

theorem kindsOfCode?_of_toUpper_eq {code other : String} (bare : trimmed code = code)
    (otherBare : trimmed other = other) (unnamed : ∀ g : Group, code ≠ g.name)
    (otherUnnamed : ∀ g : Group, other ≠ g.name) (same : code.toUpper = other.toUpper) :
    kindsOfCode? code = kindsOfCode? other := by
  apply kindsOfCode?_congr
  intro kinds
  rw [bare, otherBare, standsFor_iff_of_unnamed unnamed, standsFor_iff_of_unnamed otherUnnamed, same]

theorem Group.name_unprefixed (g : Group) : ¬ "JSC_".toList <+: g.name.toList := by
  apply not_prefix_of_test
  cases g <;> exact holds_toList_ofList (fun text => !"JSC_".toList.isPrefixOf text) rfl

theorem Kind.isSpelling_prefixed_iff (k : Kind) {text : String}
    (unprefixed : ¬ "JSC_".toList <+: text.toList) :
    k.IsSpelling ("JSC_" ++ text) ↔ k.IsSpelling text := by
  constructor
  · intro either
    rcases either with keyed | bare
    · exact .inr ((String.append_right_inj _).mp keyed)
    · exact absurd ⟨text.toList, by rw [← bare, String.toList_append]⟩ k.bareKey_unprefixed
  · intro either
    rcases either with keyed | bare
    · exact absurd ⟨k.bareKey.toList, by rw [keyed, k.toList_key]⟩ unprefixed
    · exact .inl (by rw [bare, key])

theorem kindsOfCode?_prefixed {code : String} (bare : trimmed code = code)
    (unnamed : ∀ g : Group, code ≠ g.name) (unprefixed : ¬ "JSC_".toList <+: code.toUpper.toList) :
    kindsOfCode? ("JSC_" ++ code) = kindsOfCode? code := by
  have whole : trimmed ("JSC_" ++ code) = "JSC_" ++ code := by
    have inside : trim code.toList = code.toList := by rw [← toList_trimmed, bare]
    have clear : "JSC_".toList.all (fun c => !isBlank c) = true := all_toList_ofList rfl
    rw [← String.toList_inj, toList_trimmed, String.toList_append]
    refine trim_append_of_clear (fun c member => ?_) inside
    simpa using List.all_eq_true.mp clear c member
  have upper : ("JSC_" ++ code).toUpper = "JSC_" ++ code.toUpper := by
    rw [← String.toList_inj, toList_toUpper, String.toList_append, List.map_append, String.toList_append,
      toList_toUpper]
    rfl
  have prefixedUnnamed : ∀ g : Group, "JSC_" ++ code ≠ g.name := by
    intro g named
    exact g.name_unprefixed ⟨code.toList, by rw [← named, String.toList_append]⟩
  apply kindsOfCode?_congr
  intro kinds
  rw [whole, bare, standsFor_iff_of_unnamed prefixedUnnamed, standsFor_iff_of_unnamed unnamed, upper]
  simp only [Kind.isSpelling_prefixed_iff _ unprefixed]

theorem Group.not_isSpelling_name (g : Group) (k : Kind) : ¬ k.IsSpelling g.name.toUpper := by
  have named : '_' ∉ g.name.toUpper.toList := by
    have tested : (!(g.name.toList.map Char.toUpper).contains '_') = true := by
      cases g <;> exact holds_toList_ofList (fun text => !(text.map Char.toUpper).contains '_') rfl
    rw [toList_toUpper]
    simpa using tested
  have spelled : '_' ∈ k.bareKey.toList := by
    have tested : k.bareKey.toList.contains '_' = true := by
      cases k <;> exact holds_toList_ofList (·.contains '_') rfl
    simpa using tested
  intro either
  rcases either with keyed | bare
  · rw [keyed, k.toList_key] at named
    exact named (List.mem_append_right _ spelled)
  · rw [bare] at named
    exact named spelled

theorem Settings.everywhere_eq_ok_iff_union (s : Settings) (kinds : KindSet) :
    s.everywhere = .ok kinds ↔
      (∀ code ∈ s.suppressCodes, kindsOfCode? code ≠ none) ∧
        ∀ k, k ∈ kinds ↔
          ∃ code ∈ s.suppressCodes, ∃ resolved, kindsOfCode? code = some resolved ∧ k ∈ resolved := by
  rw [s.everywhere_eq_ok_iff]
  simp only [← mem_kindsOfCodes_iff]
  exact and_congr_right fun _ =>
    ⟨fun same k => by rw [same], fun members => KindSet.eq_of_mem_iff members⟩

theorem Settings.everywhere_eq_error_iff_first (s : Settings) (e : RunError) :
    s.everywhere = .error e ↔
      ∃ before code after, s.suppressCodes = before ++ code :: after ∧
        (∀ other ∈ before, kindsOfCode? other ≠ none) ∧ kindsOfCode? code = none ∧
          e = .unknownCode code := by
  rw [s.everywhere_eq_error_iff]
  constructor
  · intro ⟨code, unresolved, named⟩
    obtain ⟨before, after, split, known, unknown⟩ := (resolveCodes_eq_error_iff ..).mp unresolved
    exact ⟨before, code, after, split, known, unknown, named⟩
  · intro ⟨before, code, after, split, known, unknown, named⟩
    exact ⟨code, (resolveCodes_eq_error_iff ..).mpr ⟨before, after, split, known, unknown⟩, named⟩

/-- A code is resolved by its text between blanks, as the name of a group or as a spelling of a kind in
any case. The codes of a run are resolved to all that they stand for, unless there is a first one
that stands for nothing. -/
theorem codes_resolve_by_name_or_key :
    (∀ code kinds, kindsOfCode? code = some kinds ↔ StandsFor (trimmed code) kinds) ∧
    (∀ (text : String) (j k : Kind), j.IsSpelling text → k.IsSpelling text → j = k) ∧
    (∀ front code back : String, allBlank front.toList = true → allBlank back.toList = true →
      kindsOfCode? (front ++ code ++ back) = kindsOfCode? code) ∧
    (∀ code other : String, trimmed code = code → trimmed other = other →
      (∀ g : Group, code ≠ g.name) → (∀ g : Group, other ≠ g.name) → code.toUpper = other.toUpper →
      kindsOfCode? code = kindsOfCode? other) ∧
    (∀ code : String, trimmed code = code → (∀ g : Group, code ≠ g.name) →
      ¬ "JSC_".toList <+: code.toUpper.toList → kindsOfCode? ("JSC_" ++ code) = kindsOfCode? code) ∧
    (∀ (text : String) (g : Group) (k : Kind), text = g.name → ¬ k.IsSpelling text.toUpper) ∧
    ∀ s : Settings,
      (∀ kinds, s.everywhere = .ok kinds ↔
        (∀ code ∈ s.suppressCodes, kindsOfCode? code ≠ none) ∧
          ∀ k, k ∈ kinds ↔
            ∃ code ∈ s.suppressCodes, ∃ resolved, kindsOfCode? code = some resolved ∧ k ∈ resolved) ∧
      ∀ e, s.everywhere = .error e ↔
        ∃ before code after, s.suppressCodes = before ++ code :: after ∧
          (∀ other ∈ before, kindsOfCode? other ≠ none) ∧ kindsOfCode? code = none ∧
            e = .unknownCode code := by
  refine ⟨kindsOfCode?_eq_some_iff, fun _ _ _ => Kind.IsSpelling.unique, ?_, ?_, ?_, ?_, ?_⟩
  · exact fun front code back before behind => kindsOfCode?_blanks before behind code
  · exact fun code other => kindsOfCode?_of_toUpper_eq
  · exact fun code => kindsOfCode?_prefixed
  · intro text g k named
    rw [named]
    exact g.not_isSpelling_name k
  · exact fun s => ⟨s.everywhere_eq_ok_iff_union, s.everywhere_eq_error_iff_first⟩

def mixedCodes : List String :=
  ["\u2003constantProperty\n", " eval_Use", "JSC_EVAL_USE", "CONSTANTPROPERTY", "checkTypez"]

theorem mixedCodes_resolve :
    kindsOfCode? "\u2003constantProperty\n" =
      some [.constantPropertyReassigned, .constantPropertyDeleted] ∧
    (∀ k : Kind, k.IsSpelling "JSC_EVAL_USE" → k = .evalUse) ∧
    kindsOfCode? "\u2003constantProperty\n" = kindsOfCode? "constantProperty" ∧
    kindsOfCode? "eval_Use" = kindsOfCode? "EVAL_USE" ∧
    kindsOfCode? "JSC_eval_Use" = kindsOfCode? "eval_Use" ∧
    ¬ Kind.missingOverride.IsSpelling "missingOverride".toUpper ∧
    ({ suppressCodes := mixedCodes } : Settings).everywhere = .error (.unknownCode "CONSTANTPROPERTY") := by
  obtain ⟨stands, unique, blanks, anyCase, prefixed, apart, run⟩ := codes_resolve_by_name_or_key
  have unnamed : ∀ g : Group, "eval_Use" ≠ g.name := by intro g; cases g <;> decide
  have unnamedUpper : ∀ g : Group, "EVAL_USE" ≠ g.name := by intro g; cases g <;> decide
  refine ⟨?_, ?_, ?_, ?_, ?_, ?_, ?_⟩
  · exact (stands _ _).mpr (.group .constantProperty (by decide))
  · exact fun k spelled => unique "JSC_EVAL_USE" k .evalUse spelled (by decide)
  · exact blanks "\u2003" "constantProperty" "\n" (by decide) (by decide)
  · refine anyCase "eval_Use" "EVAL_USE" (by decide) (by decide) unnamed unnamedUpper ?_
    rw [← String.toList_inj, toList_toUpper, toList_toUpper]
    decide
  · refine prefixed "eval_Use" (by decide) unnamed ?_
    rw [toList_toUpper]
    decide
  · exact apart "missingOverride" .missingOverride .missingOverride rfl
  · refine ((run _).2 _).mpr ⟨mixedCodes.take 3, "CONSTANTPROPERTY", ["checkTypez"], rfl, ?_, ?_, rfl⟩
    · decide
    · decide

end DiagnosticSieve
