/-
# Faults of patterns

A pattern that cannot be understood has a fault of one kind at one span. The text of the fault
shows the pattern with the span marked under it and ends with a line that says what is wrong.
A pattern of several lines is shown between two rulers with its lines numbered, and a span that
covers several lines is described instead of marked.

Key definitions: `Regex.Fault`, `Regex.Fault.what`, `Regex.SyntaxError`, `Regex.SyntaxError.text`.
-/
import StreamEditor.Regex.Tree

namespace StreamEditor
namespace Regex

/-- What can be wrong with a pattern. -/
inductive Fault where
  | classEscapeInvalid
  | classRangeInvalid
  | classRangeLiteral
  | classUnclosed
  | decimalInvalid
  | escapeHexEmpty
  | escapeHexInvalid
  | escapeHexInvalidDigit
  | escapeUnexpectedEnd
  | escapeUnrecognized
  | flagDanglingNegation
  | flagDuplicate
  | flagRepeatedNegation
  | flagUnexpectedEnd
  | flagUnrecognized
  | groupNameDuplicate
  | groupNameEmpty
  | groupNameInvalid
  | groupNameUnexpectedEnd
  | groupUnclosed
  | groupUnopened
  | nestLimitExceeded
  | repetitionCountInvalid
  | repetitionCountDecimalEmpty
  | repetitionCountUnclosed
  | repetitionMissing
  | specialWordBoundaryUnclosed
  | specialWordBoundaryUnrecognized
  | specialWordOrRepetitionUnexpectedEnd
  | unicodeClassInvalid
  | unsupportedBackreference
  | unsupportedLookAround
  | unicodeNotAllowed
  | unicodePropertyNotFound
  | unicodePropertyValueNotFound
  deriving DecidableEq, Repr

/-- The depth to which groups, classes, repetitions and sequences may nest. -/
def nestLimit : Nat := 250

namespace Fault

/-- The fault in words. -/
def what : Fault → String
  | classEscapeInvalid => "invalid escape sequence found in character class"
  | classRangeInvalid => "invalid character class range, the start must be <= the end"
  | classRangeLiteral => "invalid range boundary, must be a literal"
  | classUnclosed => "unclosed character class"
  | decimalInvalid => "decimal literal invalid"
  | escapeHexEmpty => "hexadecimal literal empty"
  | escapeHexInvalid => "hexadecimal literal is not a Unicode scalar value"
  | escapeHexInvalidDigit => "invalid hexadecimal digit"
  | escapeUnexpectedEnd => "incomplete escape sequence, reached end of pattern prematurely"
  | escapeUnrecognized => "unrecognized escape sequence"
  | flagDanglingNegation => "dangling flag negation operator"
  | flagDuplicate => "duplicate flag"
  | flagRepeatedNegation => "flag negation operator repeated"
  | flagUnexpectedEnd => "expected flag but got end of regex"
  | flagUnrecognized => "unrecognized flag"
  | groupNameDuplicate => "duplicate capture group name"
  | groupNameEmpty => "empty capture group name"
  | groupNameInvalid => "invalid capture group character"
  | groupNameUnexpectedEnd => "unclosed capture group name"
  | groupUnclosed => "unclosed group"
  | groupUnopened => "unopened group"
  | nestLimitExceeded => "exceed the maximum number of nested parentheses/brackets (250)"
  | repetitionCountInvalid =>
    "invalid repetition count range, the start must be <= the end"
  | repetitionCountDecimalEmpty => "repetition quantifier expects a valid decimal"
  | repetitionCountUnclosed => "unclosed counted repetition"
  | repetitionMissing => "repetition operator missing expression"
  | specialWordBoundaryUnclosed =>
    "special word boundary assertion is either unclosed or contains an invalid character"
  | specialWordBoundaryUnrecognized =>
    "unrecognized special word boundary assertion, valid choices are: " ++
      "start, end, start-half or end-half"
  | specialWordOrRepetitionUnexpectedEnd =>
    "found either the beginning of a special word boundary or a bounded repetition on a \\b " ++
      "with an opening brace, but no closing brace"
  | unicodeClassInvalid => "invalid Unicode character class"
  | unsupportedBackreference => "backreferences are not supported"
  | unsupportedLookAround =>
    "look-around, including look-ahead and look-behind, is not supported"
  | unicodeNotAllowed => "Unicode not allowed here"
  | unicodePropertyNotFound => "Unicode property not found"
  | unicodePropertyValueNotFound => "Unicode property value not found"

end Fault

/-- A fault at its span; some faults also point at an earlier span they clash with. -/
structure SyntaxError where
  fault : Fault
  span : Span
  clash : Option Span
  deriving DecidableEq, Repr

namespace SyntaxError

/-- The lines of a text: a line feed ends a line, and a carriage return before it belongs to
the end. -/
def linesFrom : List Char → List Char → List (List Char)
  | [], [] => []
  | line, [] => [line.reverse]
  | '\r' :: line, '\n' :: rest => line.reverse :: linesFrom [] rest
  | line, '\n' :: rest => line.reverse :: linesFrom [] rest
  | line, c :: rest => linesFrom (c :: line) rest

/-- The lines of a pattern as they are shown. -/
def shownLines (pattern : List Char) : List (List Char) :=
  linesFrom [] pattern

/-- The spans that the text points at, in the order of the pattern. -/
def spans (e : SyntaxError) : List Span :=
  let all := e.span :: e.clash.toList
  all.mergeSort fun a b => decide (a.start.offset ≤ b.start.offset)

/-- The marks under a line for the spans on it, from column `col` on. -/
def marks : Nat → List Span → List Char
  | _, [] => []
  | col, s :: rest =>
    let size := max 1 (s.stop.column - s.start.column)
    let blanks := s.start.column - 1 - col
    List.replicate blanks ' ' ++ List.replicate size '^' ++ marks (col + blanks + size) rest

/-- A number, padded with blanks on the left. -/
def padded (width n : Nat) : String :=
  let digits := toString n
  String.ofList (List.replicate (width - digits.length) ' ') ++ digits

/-- The pattern's lines from number `n` on, each followed by the marks under it. -/
def notated (width : Nat) (single : List Span) : Nat → List (List Char) → String
  | _, [] => ""
  | n, line :: rest =>
    let lead := if width = 0 then "    " else padded width n ++ ": "
    let here := single.filter fun s => s.start.line == n
    let under :=
      if here.isEmpty then ""
      else
        let indent := if width = 0 then 4 else width + 2
        String.ofList (List.replicate indent ' ' ++ marks 0 here) ++ "\n"
    lead ++ String.ofList line ++ "\n" ++ under ++ notated width single (n + 1) rest

/-- A span over several lines in words. -/
def note (s : Span) : String :=
  "on line " ++ toString s.start.line ++ " (column " ++ toString s.start.column ++
    ") through line " ++ toString s.stop.line ++ " (column " ++ toString (s.stop.column - 1) ++ ")"

/-- The text of the fault in a pattern. -/
def text (e : SyntaxError) (pattern : List Char) : String :=
  let lines := shownLines pattern
  let count := lines.length + (if pattern.getLast? == some '\n' then 1 else 0)
  let width := if count ≤ 1 then 0 else (toString count).length
  let single := e.spans.filter fun s => s.start.line == s.stop.line
  let several := e.spans.filter fun s => s.start.line != s.stop.line
  let body := notated width single 1 lines
  if pattern.contains '\n' then
    let ruler := String.ofList (List.replicate 79 '~') ++ "\n"
    let notes :=
      if several.isEmpty then "" else String.intercalate "\n" (several.map note) ++ "\n"
    "regex parse error:\n" ++ ruler ++ body ++ ruler ++ notes ++ "error: " ++ e.fault.what
  else "regex parse error:\n" ++ body ++ "error: " ++ e.fault.what

end SyntaxError
end Regex
end StreamEditor
