import DiagnosticSieve.Log
import DiagnosticSieve.Text.Basic
import DiagnosticSieve.Transcript.Header

/-!
Transcripts: what the compiler wrote to its standard error, taken apart into diagnostics and chatter.
A header opens a diagnostic, and the lines after it are its excerpt up to the next header, summary
or blank line. All other lines that are not blank and no summaries are chatter.
-/

namespace DiagnosticSieve

open Text

inductive LineClass
  | header (h : Header)
  | summary
  | blank
  | plain
  deriving DecidableEq, Repr

namespace LineClass

def afterNumber? (text : List Char) : Option (List Char) :=
  if text.takeWhile isDecimalDigit = [] then none else some (text.dropWhile isDecimalDigit)

def isSummary (line : List Char) : Bool :=
  (do
    let rest ← afterNumber? line
    let rest ← after? " error(s), ".toList rest
    let rest ← afterNumber? rest
    after? " warning(s)".toList rest).isSome

def ofLine (line : List Char) : LineClass :=
  match Header.read? line with
  | some h => .header h
  | none =>
    if isSummary line then .summary
    else if allBlank line then .blank
    else .plain

end LineClass

structure Transcript where
  diagnostics : List Diagnostic := []
  otherLines : List String := []
  deriving DecidableEq, Repr

namespace Transcript

/-- A transcript that is being read. While it is open, plain lines go to its last diagnostic. -/
structure Partial extends Transcript where
  isOpen : Bool := false
  deriving DecidableEq, Repr

namespace Partial

def last? (p : Partial) : Option Diagnostic := if p.isOpen then p.diagnostics.getLast? else none

def keep (p : Partial) (line : String) : Partial :=
  match p.last? with
  | some last =>
    { p with
      diagnostics := p.diagnostics.dropLast ++ [{ last with excerpt := last.excerpt ++ [line] }] }
  | none => { p with otherLines := p.otherLines ++ [line] }

def step (p : Partial) (line : List Char) : Partial :=
  match LineClass.ofLine line with
  | .header h => { p with diagnostics := p.diagnostics ++ [h.diagnostic []], isOpen := true }
  | .summary | .blank => { p with isOpen := false }
  | .plain => p.keep (String.ofList line)

end Partial

def ofLines (lines : List (List Char)) : Transcript :=
  (lines.foldl Partial.step {}).toTranscript

def ofString (text : String) : Transcript := ofLines (lines text.toList)

def records (t : Transcript) : List LogRecord := t.otherLines.map LogRecord.info

def hasError (t : Transcript) : Bool := t.diagnostics.any fun d => d.severity = .error

end Transcript

end DiagnosticSieve
