import DiagnosticSieve.Decimal.Shortest
import DiagnosticSieve.Json.Numeral
import DiagnosticSieve.Text.Digit

/-!
Numbers of JSON: what a numeral denotes, and how a number is named in a fault. Integers of 64 bits are
exact; any other number is a binary64.
-/

namespace DiagnosticSieve.Json

open Text

inductive Number
  | integer (value : Int)
  | real (value : Float)

namespace Numeral

def absorb (significand : Nat) : List Char → Nat × Nat
  | [] => (significand, 0)
  | d :: digits =>
    let next := significand * 10 + digitValue d
    if next < UInt64.size then
      let (total, added) := absorb next digits
      (total, added + 1)
    else (significand, 0)

def exponentValue (value : Nat) : List Char → Except (List Char) Nat
  | [] => .ok value
  | d :: digits =>
    let next := value * 10 + digitValue d
    if next < 0x80000000 then exponentValue next digits else .error digits

def powerOfTen (n : Nat) : Float := Float.ofScientific 1 false n

def largestPower : Nat := 308

def shrink (value : Float) (power : Nat) : Float :=
  if power ≤ largestPower then value / powerOfTen power
  else if value == 0 then value
  else shrink (value / powerOfTen largestPower) (power - largestPower)
termination_by power
decreasing_by
  simp only [largestPower] at *
  omega

def grow? (value : Float) (power : Nat) : Option Float :=
  if power ≤ largestPower then
    let product := value * powerOfTen power
    if product.isInf then none else some product
  else if value == 0 then some value
  else none

def scale? (significand : Nat) (exponent : Int) : Option Float :=
  let value := significand.toUInt64.toFloat
  if exponent < 0 then some (shrink value exponent.natAbs) else grow? value exponent.natAbs

/-- The number that a numeral denotes. A number out of range leaves the digits over that were not
needed to tell so. -/
def number (negative : Bool) (n : Numeral) : Except (List Char) Number :=
  let (head, added) := absorb 0 n.whole
  let dropped := n.whole.length - added
  let (significand, places) := absorb head n.fraction
  let exponent : Int := (dropped : Int) - places
  let signed (x : Float) : Number := .real (if negative then -x else x)
  let scaled (exponent : Int) : Except (List Char) Number :=
    match scale? significand exponent with
    | some x => .ok (signed x)
    | none => .error []
  match n.exponent with
  | some (down, digits) =>
    match exponentValue 0 digits with
    | .ok value => scaled (if down then exponent - value else exponent + value)
    | .error left => if down || significand = 0 then .ok (signed 0) else .error left
  | none =>
    if n.fraction ≠ [] || dropped ≠ 0 then scaled exponent
    else if !negative then .ok (.integer significand)
    else if significand = 0 || 0x8000000000000000 < significand then .ok (signed significand.toUInt64.toFloat)
    else .ok (.integer (-significand))

end Numeral

namespace Number

def leastPositional : Int := -5

def greatestPositional : Int := 15

def zeros (n : Nat) : List Char := List.replicate n '0'

def exponentText (exponent : Int) : List Char :=
  (if exponent < 0 then '-' else '+') :: (toString exponent.natAbs).toList

def decimalText (d : Decimal) : List Char :=
  let digits := (toString d.digits).toList
  let magnitude := d.exponent + digits.length - 1
  if leastPositional ≤ magnitude && magnitude ≤ greatestPositional then
    if 0 ≤ d.exponent then digits ++ zeros d.exponent.toNat ++ ".0".toList
    else if 0 ≤ magnitude then
      digits.take (magnitude + 1).toNat ++ '.' :: digits.drop (magnitude + 1).toNat
    else "0.".toList ++ zeros (-magnitude - 1).toNat ++ digits
  else
    digits.take 1 ++ (if digits.length = 1 then [] else '.' :: digits.drop 1) ++
      'e' :: exponentText magnitude

example : decimalText ⟨18446744073709552, 3⟩ = "1.8446744073709552e+19".toList := by decide +kernel
example : decimalText ⟨1, -6⟩ = "1e-6".toList := by decide +kernel
example : decimalText ⟨1, -5⟩ = "0.00001".toList := by decide +kernel

def realText (x : Float) : String :=
  let b := Binary64.ofBits x.toBits
  let magnitude := if b.mantissa = 0 then "0.0".toList else decimalText b.shortest
  String.ofList (if x.toBits < 0x8000000000000000 then magnitude else '-' :: magnitude)

def describe : Number → String
  | integer value => "integer `" ++ toString value ++ "`"
  | real value => "floating point `" ++ realText value ++ "`"

end Number

def readNumber (negative : Bool) (text : List Char) : Reading Number :=
  match Numeral.read .endInValue text with
  | .error e => .error e
  | .ok (numeral, rest) =>
    match numeral.number negative with
    | .ok number => .ok (number, rest)
    | .error left => .error (.before .numberOutOfRange (left ++ rest))

end DiagnosticSieve.Json
