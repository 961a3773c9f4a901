/-
# What to tell about a pattern that does not compile

The text of a fault is turned into advice: the kind of fault, the place of it, and what to do.
The kind is found by looking for words in the text of the fault, which quotes the pattern, and
the place by scanning the pattern for a delimiter, a quantifier or an escape that looks wrong.

Key definitions: `Regex.Diagnosis`, `Regex.PatternError`, `Regex.PatternError.diagnosis`,
`Regex.unclosedDelimiter?`, `Regex.invalidQuantifier?`, `Regex.invalidEscape?`,
`Regex.PatternError.message`.
-/
import StreamEditor.Regex.Basic
import StreamEditor.Text.Quoted

namespace StreamEditor
namespace Regex

/-- What is told about a pattern. -/
inductive Diagnosis where
  | unclosedDelimiter (delimiter : Char) (position : Nat)
  | invalidQuantifier (summary : String) (position : Option Nat)
  | invalidEscape (sequence : String)
  | unsupported (summary : String)
  | tooBig
  | malformed (summary : String)
  deriving DecidableEq, Repr

/-! ### Scans of a pattern -/

/-- The scan for a delimiter that is opened and never closed: `i` characters have been read,
`escaped` tells whether a backslash stands before the next one, `inClass` whether a bracket is
open, and `stack` holds the places of the open delimiters, the innermost first. Brackets do not
nest, and a parenthesis between brackets does not count. -/
def scanDelimiters (opening closing : Char) :
    List Char → Nat → Bool → Bool → List Nat → Option Nat
  | [], _, _, _, stack => stack.head?
  | c :: cs, i, escaped, inClass, stack =>
    if escaped then scanDelimiters opening closing cs (i + 1) false inClass stack
    else if c == '\\' then scanDelimiters opening closing cs (i + 1) true inClass stack
    else
      let inClass :=
        if opening == '[' then inClass
        else if c == '[' then true
        else if c == ']' then false
        else inClass
      if inClass then scanDelimiters opening closing cs (i + 1) false inClass stack
      else if c == opening && !(opening == '[' && !stack.isEmpty) then
        scanDelimiters opening closing cs (i + 1) false inClass (i :: stack)
      else if c == closing then
        scanDelimiters opening closing cs (i + 1) false inClass stack.tail
      else scanDelimiters opening closing cs (i + 1) false inClass stack

/-- The place, in characters, of the last delimiter that is opened and never closed. -/
def unclosedDelimiter? (pattern : List Char) (opening closing : Char) : Option Nat :=
  scanDelimiters opening closing pattern 0 false false []

/-- Whether a character is ASCII punctuation. -/
def isPunctuation (c : Char) : Bool :=
  decide (33 ≤ c.toNat) && decide (c.toNat < 127) && !c.isAlphanum

/-- Whether a backslash before the character is known to mean something. -/
def isKnownEscape (c : Char) : Bool :=
  "ntrfva01234567xuUpPwWdDsSbBAz".toList.contains c || isPunctuation c

/-- The first escape sequence that is not known. -/
def invalidEscape? : List Char → Option String
  | [] => none
  | '\\' :: [] => none
  | '\\' :: c :: cs =>
    if isKnownEscape c then invalidEscape? cs else some (String.ofList ['\\', c])
  | _ :: cs => invalidEscape? cs

/-- The scan for a quantifier at the start or after an opening parenthesis or a bar; `i`
characters have been read, the last of them `last`. -/
def scanQuantifiers : Option Char → Nat → List Char → Option Nat
  | _, _, [] => none
  | last, i, c :: cs =>
    let atStart := last == none || last == some '(' || last == some '|'
    if (c == '*' || c == '+' || c == '?') && atStart then some i
    else scanQuantifiers (some c) (i + 1) cs

/-- The place of the first quantifier at the start or after an opening parenthesis or a bar. -/
def invalidQuantifier? (pattern : List Char) : Option Nat :=
  scanQuantifiers none 0 pattern

/-! ### Diagnosis -/

/-- A character in lower case, as far as the words looked for can tell. Besides the capitals in ASCII
two characters have an ASCII letter in their lower case: the Kelvin sign, for which it is a k, and the
capital I with a dot (U+0130), for which it is an i and a combining dot behind it. The second is left
as it is, since no word looked for ends in an i or has that dot behind one. -/
def lowered (c : Char) : Char :=
  if c.toNat == 0x212A then 'k' else c.toLower

/-- Whether a text holds given words. -/
def holdsWords (words : List Char) : List Char → Bool
  | [] => words.isEmpty
  | c :: cs => words.isPrefixOf (c :: cs) || holdsWords words cs

/-- The line that says what is wrong: the last line of the text of a fault. -/
def SyntaxError.summary (e : SyntaxError) : String :=
  "error: " ++ e.fault.what

/-- What is told about a fault of a pattern. -/
def SyntaxError.diagnosis (pattern : List Char) (e : SyntaxError) : Diagnosis :=
  let told := (e.text pattern).toList.map lowered
  let tells (words : String) : Bool := holdsWords words.toList told
  let group? := if tells "unclosed group" then unclosedDelimiter? pattern '(' ')' else none
  let class? :=
    if tells "unclosed character class" then unclosedDelimiter? pattern '[' ']' else none
  let escape? := if tells "escape" then invalidEscape? pattern else none
  match group?, class? with
  | some position, _ => .unclosedDelimiter '(' position
  | none, some position => .unclosedDelimiter '[' position
  | none, none =>
    if tells "look-around" || tells "backreferences are not supported" then
      .unsupported e.summary
    else if tells "repetition" then .invalidQuantifier e.summary (invalidQuantifier? pattern)
    else
      match escape? with
      | some sequence => .invalidEscape sequence
      | none => .malformed e.summary

/-- A pattern that does not compile, with the reason. -/
structure PatternError where
  pattern : String
  cause : CompileError
  deriving DecidableEq, Repr

namespace PatternError

/-- What is told about the pattern. -/
def diagnosis (e : PatternError) : Diagnosis :=
  match e.cause with
  | .tooBig => .tooBig
  | .malformed fault => fault.diagnosis e.pattern.toList

end PatternError

/-- What to do about a fault, where that is known. -/
def Diagnosis.suggestion? : Diagnosis → Option String
  | .unclosedDelimiter delimiter _ =>
    let closing := if delimiter == '(' then ")" else "]"
    some ("add a closing '" ++ closing ++ "', or escape the opening one as '\\" ++
      String.ofList [delimiter] ++ "' to match it literally")
  | .invalidQuantifier _ _ =>
    some ("a quantifier (*, +, ?, \x7bn\x7d) must follow a character or group, " ++
      "e.g. 'a*', '(foo)+'")
  | .invalidEscape sequence =>
    some ("'" ++ sequence ++ "' is not a known escape; " ++
      "to match the character literally drop the backslash")
  | .unsupported _ =>
    some ("look-around and backreferences inside the pattern are not available; " ++
      "use capture groups and $1 in the replacement")
  | .tooBig => none
  | .malformed _ => none

/-- A diagnosis in words. -/
def Diagnosis.what : Diagnosis → String
  | .unclosedDelimiter delimiter position =>
    "unclosed '" ++ String.ofList [delimiter] ++ "' at position " ++ toString position
  | .invalidQuantifier summary position =>
    let place :=
      match position with
      | some i => " at position " ++ toString i
      | none => ""
    "invalid repetition" ++ place ++ ": " ++ summary
  | .invalidEscape sequence => "unrecognized escape sequence '" ++ sequence ++ "'"
  | .unsupported summary => "unsupported syntax: " ++ summary
  | .tooBig => "compiled pattern exceeds the size limit"
  | .malformed summary => summary

/-- The message for a pattern that does not compile. -/
def PatternError.message (e : PatternError) : String :=
  let advice :=
    match e.diagnosis.suggestion? with
    | some s => "\n  suggestion: " ++ s
    | none => ""
  "not valid regex pattern: " ++ Quoted.text e.pattern ++ "\n  " ++ e.diagnosis.what ++ advice

/-- Compiles a pattern, or tells why it does not compile. -/
def compilePattern (pattern : String) (ignoreCase : Bool) : Except PatternError Regex :=
  match compile pattern ignoreCase with
  | .ok r => .ok r
  | .error cause => .error ⟨pattern, cause⟩

end Regex
end StreamEditor
