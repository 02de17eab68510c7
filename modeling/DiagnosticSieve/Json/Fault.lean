/-!
Faults of JSON texts: what is wrong, and up to which place the text had been taken in. Places are
counted in lines and in bytes, as editors find them in a file.
-/

namespace DiagnosticSieve.Json

inductive Cause
  | expectedValue
  | expectedColon
  | expectedCommaOrBrace
  | expectedCommaOrBracket
  | keyNotText
  | trailingComma
  | trailingText
  | endInValue
  | endInObject
  | endInList
  | endInText
  | controlCharacter
  | invalidEscape
  | unpairedEscape
  /-- A surrogate stands where no second half of a pair can be. -/
  | loneSurrogate
  | misspeltWord
  | invalidNumber
  | numberOutOfRange
  | wrongType (found expected : String)
  | wrongLength (length : Nat) (expected : String)
  | missingField (name : String)
  | duplicateField (name : String)
  deriving DecidableEq, Repr

def Cause.message : Cause → String
  | expectedValue => "expected value"
  | expectedColon => "expected `:`"
  | expectedCommaOrBrace => "expected `,` or `\x7d`"
  | expectedCommaOrBracket => "expected `,` or `]`"
  | keyNotText => "key must be a string"
  | trailingComma => "trailing comma"
  | trailingText => "trailing characters"
  | endInValue => "EOF while parsing a value"
  | endInObject => "EOF while parsing an object"
  | endInList => "EOF while parsing a list"
  | endInText => "EOF while parsing a string"
  | controlCharacter => "control character (\\u0000-\\u001F) found while parsing a string"
  | invalidEscape => "invalid escape"
  | unpairedEscape => "unexpected end of hex escape"
  | loneSurrogate => "lone leading surrogate in hex escape"
  | misspeltWord => "expected ident"
  | invalidNumber => "invalid number"
  | numberOutOfRange => "number out of range"
  | wrongType found expected => "invalid type: " ++ found ++ ", expected " ++ expected
  | wrongLength length expected =>
    "invalid length " ++ toString length ++ ", expected " ++ expected
  | missingField name => "missing field `" ++ name ++ "`"
  | duplicateField name => "duplicate field `" ++ name ++ "`"

structure Fault where
  cause : Cause
  rest : List Char
  /-- How many bytes of it belong to the fault, if there are as many. -/
  ahead : Nat
  deriving DecidableEq, Repr

namespace Fault

def before (cause : Cause) (rest : List Char) : Fault := ⟨cause, rest, 0⟩

def head (cause : Cause) (rest : List Char) : Fault := ⟨cause, rest, 1⟩

end Fault

/-- Lines are counted from one; the column is the number of bytes since the last line feed. -/
structure Position where
  line : Nat
  column : Nat
  deriving DecidableEq, Repr

namespace Position

def start : Position := ⟨1, 0⟩

def step (p : Position) (c : Char) : Position :=
  if c = '\n' then ⟨p.line + 1, 0⟩ else ⟨p.line, p.column + c.utf8Size⟩

def advance (p : Position) : Nat → List Char → Position
  | 0, _ | _, [] => p
  | bytes, c :: rest =>
    if c.utf8Size ≤ bytes then (p.step c).advance (bytes - c.utf8Size) rest
    else ⟨p.line, p.column + bytes⟩

def text (p : Position) : String :=
  "line " ++ toString p.line ++ " column " ++ toString p.column

end Position

def Fault.position (f : Fault) (text : List Char) : Position :=
  ((text.take (text.length - f.rest.length)).foldl Position.step Position.start).advance
    f.ahead f.rest

end DiagnosticSieve.Json
