import DiagnosticSieve.Decimal.Shortest
import DiagnosticSieve.Json.Text
import DiagnosticSieve.Library

namespace DiagnosticSieve.Json

inductive Value
  | null
  | boolean (value : Bool)
  | number (negative : Bool) (size : Decimal)
  | text (value : String)
  | list (items : List Value)
  | object (members : List (String × Value))

def separate : List (List Char) → List Char
  | [] => []
  | [part] => part
  | part :: parts => part ++ ',' :: separate parts

namespace Value

def writeNumber (negative : Bool) (size : Decimal) : List Char :=
  (if negative then ['-'] else []) ++ (toString size.digits).toList ++
    if size.exponent = 0 then [] else 'e' :: (toString size.exponent).toList

mutual

def write : Value → List Char
  | null => "null".toList
  | boolean value => (toString value).toList
  | number negative size => writeNumber negative size
  | text value => writeText value.toList
  | list items => '[' :: separate (writeItems items) ++ [']']
  | object members => '\x7b' :: separate (writeMembers members) ++ ['\x7d']

def writeItems : List Value → List (List Char)
  | [] => []
  | item :: items => item.write :: writeItems items

def writeMembers : List (String × Value) → List (List Char)
  | [] => []
  | (key, value) :: members =>
    (writeText key.toList ++ ':' :: value.write) :: writeMembers members

end

end Value

end DiagnosticSieve.Json

namespace DiagnosticSieve.Library

open Json

def value (lib : Library) : Value :=
  .object
    [("label", .text lib.label), ("modules", .list (lib.modules.map .text)),
     ("suppressions", .list (lib.suppressions.map .text)), ("legacy", .boolean lib.legacy)]

def print (lib : Library) : String := String.ofList lib.value.write

example : ({ label := "//a", modules := ["m\n"], legacy := true } : Library).print =
    "\x7b\"label\":\"//a\",\"modules\":[\"m\\n\"],\"suppressions\":[],\"legacy\":true\x7d" := by
  decide +kernel

end DiagnosticSieve.Library
