/-
# Escape sequences of patterns

What a backslash introduces: a character that stands for itself, a character by its code, a
class, or an assertion. Letters and digits without a meaning are refused, so that they can be
given one; every other ASCII character may be escaped.

Key definitions: `Regex.Escape.read`, `Regex.Escape.readHex`, `Regex.Escape.readUnicodeClass`.
-/
import StreamEditor.Regex.Tree.Cursor

namespace StreamEditor
namespace Regex
namespace Escape

open Cursor

/-- Whether a character is a hexadecimal digit. -/
def isHexDigit (c : Char) : Bool :=
  c.isDigit || decide ('a' ≤ c) && decide (c ≤ 'f') || decide ('A' ≤ c) && decide (c ≤ 'F')

/-- The value of a hexadecimal digit. -/
def hexValue (c : Char) : Nat :=
  if c.isDigit then c.toNat - '0'.toNat
  else if 'a' ≤ c then c.toNat - 'a'.toNat + 10
  else c.toNat - 'A'.toNat + 10

/-- The number that hexadecimal digits write. -/
def hexNumber (digits : List Char) : Nat :=
  digits.foldl (fun n d => n * 16 + hexValue d) 0

/-- The character with a code, if there is one. -/
def charOfCode? (n : Nat) : Option Char :=
  if n < 0xD800 ∨ 0xE000 ≤ n ∧ n < 0x110000 then some (Char.ofNat n) else none

/-- Reads `n` hexadecimal digits. -/
def readDigits : Nat → List Char → Cursor → Except SyntaxError (List Char × Cursor)
  | 0, digits, c => .ok (digits.reverse, c)
  | n + 1, digits, c =>
    match c.rest with
    | [] => fail .escapeUnexpectedEnd c.here
    | d :: _ =>
      if isHexDigit d then readDigits n (d :: digits) c.next
      else fail .escapeHexInvalidDigit c.charSpan

/-- Reads a character by a fixed number of digits of its code. -/
def readHexFixed (start : Position) (count : Nat) (asByte : Bool) (c : Cursor) :
    Except SyntaxError (Tree × Cursor) := do
  let (digits, d) ← readDigits count [] c
  match charOfCode? (hexNumber digits) with
  | some ch => .ok (.literal ⟨⟨start, d.pos⟩, ch, asByte⟩, d)
  | none => fail .escapeHexInvalid ⟨c.pos, d.pos⟩

/-- Reads a character by the digits of its code between braces; the cursor is at the opening
brace. -/
def readHexBraced (start : Position) (c : Cursor) : Except SyntaxError (Tree × Cursor) :=
  let inside := c.bump.pos
  let (digits, d) := c.next.takeSpaced isHexDigit
  match d.rest with
  | [] => fail .escapeUnexpectedEnd ⟨c.pos, d.pos⟩
  | ch :: _ =>
    if ch != '}' then fail .escapeHexInvalidDigit d.charSpan
    else
      let after := d.next
      if digits.isEmpty then fail .escapeHexEmpty ⟨c.pos, after.pos⟩
      else
        match charOfCode? (hexNumber digits) with
        | some code => .ok (.literal ⟨⟨start, after.pos⟩, code, false⟩, after)
        | none => fail .escapeHexInvalid ⟨inside, d.pos⟩

/-- Reads a character by its code; the cursor is at the letter that says how many digits the
code has without braces. -/
def readHex (start : Position) (letter : Char) (c : Cursor) :
    Except SyntaxError (Tree × Cursor) :=
  let d := c.next
  match d.rest with
  | [] => fail .escapeUnexpectedEnd d.here
  | ch :: _ =>
    if ch == '{' then readHexBraced start d
    else
      let count := if letter == 'x' then 2 else if letter == 'u' then 4 else 8
      readHexFixed start count (letter == 'x') d

/-- The parts of a text before and after the first place where `sep` stands. -/
def cutAt (sep : List Char) : List Char → List Char → Option (List Char × List Char)
  | before, [] => if sep.isEmpty then some (before.reverse, []) else none
  | before, ch :: cs =>
    if sep.isPrefixOf (ch :: cs) then some (before.reverse, (ch :: cs).drop sep.length)
    else cutAt sep (ch :: before) cs

/-- What the text between the braces of a Unicode class names. -/
def classNameOf (inside : List Char) : ClassName :=
  match cutAt ['!', '='] [] inside with
  | some (name, value) => .valued true (String.ofList name) (String.ofList value)
  | none =>
    match cutAt [':'] [] inside with
    | some (name, value) => .valued false (String.ofList name) (String.ofList value)
    | none =>
      match cutAt ['='] [] inside with
      | some (name, value) => .valued false (String.ofList name) (String.ofList value)
      | none => .name (String.ofList inside)

/-- Reads a Unicode class; the cursor is at the `p` or `P`. -/
def readUnicodeClass (start : Position) (letter : Char) (c : Cursor) :
    Except SyntaxError (Tree × Cursor) :=
  let negated := letter == 'P'
  let d := c.next
  match d.rest with
  | [] => fail .escapeUnexpectedEnd d.here
  | ch :: _ =>
    if ch == '{' then
      let (inside, e) := d.next.takeSpaced (· != '}')
      match e.rest with
      | [] => fail .escapeUnexpectedEnd e.here
      | _ :: _ =>
        let after := e.bump
        .ok (.unicode ⟨⟨start, after.pos⟩, negated, classNameOf inside⟩, after)
    else if ch == '\\' then fail .unicodeClassInvalid d.charSpan
    else
      let after := d.next
      .ok (.unicode ⟨⟨start, after.pos⟩, negated, .name (String.ofList [ch])⟩, after)

/-- Whether a character may name a special word boundary. -/
def isBoundaryLetter (c : Char) : Bool :=
  c.isAlpha || c == '-'

/-- The special word boundary behind its name. -/
def boundaryNamed : List Char → Option Assertion
  | ['s', 't', 'a', 'r', 't'] => some .wordStart
  | ['e', 'n', 'd'] => some .wordEnd
  | ['s', 't', 'a', 'r', 't', '-', 'h', 'a', 'l', 'f'] => some .wordStartHalf
  | ['e', 'n', 'd', '-', 'h', 'a', 'l', 'f'] => some .wordEndHalf
  | _ => none

/-- Reads the name of a special word boundary between braces, with the cursor at the opening
brace. What cannot begin such a name is left for the counted repetition it may be. -/
def readBoundary (start : Position) (c : Cursor) : Except SyntaxError (Tree × Cursor) :=
  let inside := c.next
  match inside.rest with
  | [] => fail .specialWordOrRepetitionUnexpectedEnd ⟨start, inside.pos⟩
  | ch :: _ =>
    if !isBoundaryLetter ch then .ok (.assertion ⟨start, c.pos⟩ .wordBoundary, c)
    else
      let (name, d) := inside.takeSpaced isBoundaryLetter
      if d.rest.head? != some '}' then fail .specialWordBoundaryUnclosed ⟨c.pos, d.pos⟩
      else
        match boundaryNamed name with
        | some kind => .ok (.assertion ⟨start, d.bump.pos⟩ kind, d.bump)
        | none => fail .specialWordBoundaryUnrecognized ⟨inside.pos, d.pos⟩

/-- Whether an escaped character stands for itself: any ASCII character but letters, digits and
the two angle brackets, which mean the sides of a word. -/
def standsForItself (c : Char) : Bool :=
  decide (c.toNat < 128) && !c.isAlphanum && c != '<' && c != '>'

/-- The control characters that letters stand for. -/
def controlOf? : Char → Option Char
  | 'a' => some '\x07'
  | 'f' => some '\x0c'
  | 't' => some '\t'
  | 'n' => some '\n'
  | 'r' => some '\r'
  | 'v' => some '\x0b'
  | _ => none

/-- The assertions that single characters stand for. -/
def assertionOf? : Char → Option Assertion
  | 'A' => some .startText
  | 'z' => some .endText
  | 'B' => some .notWordBoundary
  | '<' => some .wordStart
  | '>' => some .wordEnd
  | _ => none

/-- The classes that letters stand for, and whether the letter negates. -/
def shortOf? : Char → Option (ShortClass × Bool)
  | 'd' => some (.digit, false)
  | 'D' => some (.digit, true)
  | 's' => some (.space, false)
  | 'S' => some (.space, true)
  | 'w' => some (.word, false)
  | 'W' => some (.word, true)
  | _ => none

/-- Reads an escape sequence; the cursor is at the backslash. -/
def read (c : Cursor) : Except SyntaxError (Tree × Cursor) :=
  let start := c.pos
  let d := c.bump
  match d.rest with
  | [] => fail .escapeUnexpectedEnd ⟨start, d.pos⟩
  | ch :: _ =>
    let after := d.bump
    let span : Span := ⟨start, after.pos⟩
    if ch.isDigit then fail .unsupportedBackreference span
    else if ch == 'x' || ch == 'u' || ch == 'U' then readHex start ch d
    else if ch == 'p' || ch == 'P' then readUnicodeClass start ch d
    else
      match shortOf? ch with
      | some (kind, negated) => .ok (.short span kind negated, after)
      | none =>
        if standsForItself ch then .ok (.literal ⟨span, ch, false⟩, after)
        else
          match controlOf? ch with
          | some control => .ok (.literal ⟨span, control, false⟩, after)
          | none =>
            if ch == 'b' then
              if after.rest.head? == some '{' then readBoundary start after
              else .ok (.assertion span .wordBoundary, after)
            else
              match assertionOf? ch with
              | some kind => .ok (.assertion span kind, after)
              | none => fail .escapeUnrecognized span

end Escape
end Regex
end StreamEditor
