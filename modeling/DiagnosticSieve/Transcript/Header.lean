import DiagnosticSieve.Diagnostic
import DiagnosticSieve.Text.Digit
import DiagnosticSieve.Text.Basic

namespace DiagnosticSieve

open Text

structure Location where
  file : List Char
  line : Option (List Char) := none
  column : Option (List Char) := none
  deriving DecidableEq, Repr

structure HeaderBody where
  severity : Severity
  key : Option (List Char)
  message : List Char
  deriving DecidableEq, Repr

structure Header where
  location : Option Location
  body : HeaderBody
  deriving DecidableEq, Repr

namespace Location

/-- What stands between the first colon and the severity: nothing, a line, or a line and a column.
The answer has the two numbers and the text after the space. -/
def positions? (text : List Char) : Option (Option (List Char) × Option (List Char) × List Char) :=
  match text with
  | ' ' :: rest => some (none, none, rest)
  | _ =>
    let line := text.takeWhile isDecimalDigit
    if line = [] then none
    else
      match text.dropWhile isDecimalDigit with
      | ':' :: ' ' :: rest => some (some line, none, rest)
      | ':' :: more =>
        let column := more.takeWhile isDecimalDigit
        if column = [] then none
        else
          match more.dropWhile isDecimalDigit with
          | ':' :: ' ' :: rest => some (some line, some column, rest)
          | _ => none
      | _ => none

/-- Reads a location with its last colon and the space after it. The file is everything before the
first colon of the line. -/
def read? (text : List Char) : Option (Location × List Char) :=
  match text.takeWhile (· ≠ ':'), text.dropWhile (· ≠ ':') with
  | c :: file, ':' :: rest =>
    if isBlank c then none
    else (positions? rest).map fun (line, column, body) => (⟨c :: file, line, column⟩, body)
  | _, _ => none

end Location

namespace HeaderBody

def isKeyChar (c : Char) : Bool := c.isAlphanum || c = '_'

def splitKey (text : List Char) : Option (List Char) × List Char :=
  match text with
  | '[' :: rest =>
    match rest.takeWhile isKeyChar, rest.dropWhile isKeyChar with
    | c :: key, ']' :: ' ' :: message => (some (c :: key), message)
    | _, _ => (none, text)
  | _ => (none, text)

def ofRest (severity : Severity) (rest : List Char) : HeaderBody :=
  ⟨severity, (splitKey rest).1, (splitKey rest).2⟩

def read? (text : List Char) : Option HeaderBody :=
  ((after? "ERROR - ".toList text).map (ofRest .error)).or
    ((after? "WARNING - ".toList text).map (ofRest .warning))

end HeaderBody

namespace Header

def readLocated? (line : List Char) : Option Header := do
  let (location, rest) ← Location.read? line
  let body ← HeaderBody.read? rest
  pure ⟨some location, body⟩

def readBare? (line : List Char) : Option Header :=
  (HeaderBody.read? line).map fun body => ⟨none, body⟩

def read? (line : List Char) : Option Header := (readLocated? line).or (readBare? line)

/-- The diagnostic that a header opens. Numbers that are no ASCII digits or do not fit a word are
left out. -/
def diagnostic (h : Header) (excerpt : List String) : Diagnostic where
  severity := h.body.severity
  key := h.body.key.map String.ofList
  message := String.ofList h.body.message
  file := h.location.map fun l => String.ofList l.file
  line := h.location.bind fun l => l.line.bind word32?
  column := h.location.bind fun l => l.column.bind word32?
  excerpt := excerpt

end Header

end DiagnosticSieve
