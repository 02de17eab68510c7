import DiagnosticSieve.Json.Skip
import DiagnosticSieve.Json.Tuple
import DiagnosticSieve.Json.Typed
import DiagnosticSieve.Library

/-!
Reading a library from JSON. Its parts are either the members of an object, in any order and among
others, or the elements of a list, in the order of the fields. The text is read from left to right,
and its first fault is the one that is told.
-/

namespace DiagnosticSieve.Library

open Json

def expected : String := "struct LibraryDescriptor"

inductive Member
  | label | modules | suppressions | legacy
  deriving DecidableEq, Repr

namespace Member

def ofKey? : String → Option Member
  | "label" => some label
  | "modules" => some modules
  | "suppress" | "suppressions" => some suppressions
  | "legacy" => some legacy
  | _ => none

def name : Member → String
  | label => "label"
  | modules => "modules"
  | suppressions => "suppressions"
  | legacy => "legacy"

end Member

structure Draft where
  label : Option String := none
  modules : Option (List String) := none
  suppressions : Option (List String) := none
  legacy : Option Bool := none
  deriving DecidableEq, Repr

namespace Draft

def has (d : Draft) : Member → Bool
  | .label => d.label.isSome
  | .modules => d.modules.isSome
  | .suppressions => d.suppressions.isSome
  | .legacy => d.legacy.isSome

def readMember (d : Draft) (text : List Char) : Member → Reading Draft
  | .label => (readString text).mapValue fun value => { d with label := some value }
  | .modules => (readStrings text).mapValue fun value => { d with modules := some value }
  | .suppressions => (readStrings text).mapValue fun value => { d with suppressions := some value }
  | .legacy => (readBoolean text).mapValue fun value => { d with legacy := some value }

theorem readMember_length_lt (d d' : Draft) (m : Member) (text rest : List Char)
    (h : d.readMember text m = .ok (d', rest)) : rest.length < text.length := by
  unfold readMember at h
  split at h
  · obtain ⟨value, _, found⟩ := (mapValue_eq_ok_iff ..).mp h
    exact readString_length_lt text value rest found
  · obtain ⟨value, _, found⟩ := (mapValue_eq_ok_iff ..).mp h
    exact readStrings_length_lt text value rest found
  · obtain ⟨value, _, found⟩ := (mapValue_eq_ok_iff ..).mp h
    exact readStrings_length_lt text value rest found
  · obtain ⟨value, _, found⟩ := (mapValue_eq_ok_iff ..).mp h
    exact readBoolean_length_lt text value rest found

def library? (d : Draft) : Option Library :=
  d.label.map fun label =>
    ⟨label, d.modules.getD [], d.suppressions.getD [], d.legacy.getD false⟩

end Draft

/-- The place where a repeated key is noticed: behind the blanks after it, and behind the closing
bracket if that is next. -/
def afterRepetition (text : List Char) : List Char :=
  match skipBlanks text with
  | '\x7d' :: rest => rest
  | rest => rest

def readValue (d : Draft) (key : List Char) (text : List Char) : Reading Draft :=
  match Member.ofKey? (String.ofList key) with
  | none =>
    match expectColon text with
    | .error e => .error e
    | .ok rest => (skipValue rest).map fun rest => (d, rest)
  | some m =>
    if d.has m then .error (.before (.duplicateField m.name) (afterRepetition text))
    else
      match expectColon text with
      | .error e => .error e
      | .ok rest => d.readMember rest m

theorem readValue_length_le (d d' : Draft) (key text rest : List Char)
    (h : readValue d key text = .ok (d', rest)) : rest.length ≤ text.length := by
  unfold readValue at h
  split at h
  · split at h
    · simp at h
    · rename_i more colon
      have first := expectColon_length_lt text more colon
      cases found : skipValue more with
      | error e => simp [found, Except.map] at h
      | ok last =>
        have second := skipFrom_length_le .value [] more last found
        simp only [found, Except.map, Except.ok.injEq, Prod.mk.injEq] at h
        rw [← h.2]
        omega
  split at h
  · simp at h
  split at h
  · simp at h
  · rename_i more colon
    have first := expectColon_length_lt text more colon
    have second := d.readMember_length_lt d' _ more rest h
    omega

def readMembers (d : Draft) (first : Bool) (text : List Char) : Reading Library :=
  match _next : Bracket.object.next first text with
  | .error e => .error e
  | .ok (.close rest) =>
    match d.library? with
    | some lib => .ok (lib, rest)
    | none => .error (.before (.missingField Member.label.name) rest)
  | .ok (.item ('"' :: item)) =>
    match _key : readText true item with
    | .error e => .error e
    | .ok (key, rest) =>
      match _value : readValue d key rest with
      | .error e => .error e
      | .ok (d, rest) => readMembers d false rest
  | .ok (.item item) => .error (.head .keyNotText item)
termination_by text.length
decreasing_by
  have := Bracket.next_item_length_le _ _ _ _ _next
  have := readText_length_lt _ _ _ _ _key
  have := readValue_length_le _ _ _ _ _ _value
  simp only [List.length_cons] at *
  omega

def readElements (text : List Char) : Except Fault (Library × List Char) := do
  match ← Bracket.list.next true text with
  | .close rest => .error (.before (.wrongLength 0 (expected ++ " with 4 elements")) rest)
  | .item item =>
    let (label, rest) ← readString item
    let (modules, place) ← readElement readStrings [] (.inside rest)
    let (suppressions, place) ← readElement readStrings [] place
    let (legacy, place) ← readElement readBoolean false place
    let rest ← closeList place
    pure (⟨label, modules, suppressions, legacy⟩, rest)

def read (text : List Char) : Reading Library :=
  match skipBlanks text with
  | [] => .error (.head .endInValue [])
  | '[' :: rest => readElements rest
  | '\x7b' :: rest => readMembers {} true rest
  | text => .error (mismatch expected text)

def parse (text : List Char) : Except Fault Library :=
  match read text with
  | .error e => .error e
  | .ok (lib, rest) =>
    match skipBlanks rest with
    | [] => .ok lib
    | rest => .error (.head .trailingText rest)

end DiagnosticSieve.Library
