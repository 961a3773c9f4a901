/-
# Reading a pattern character by character

A cursor is the rest of a pattern with the place it begins at. In verbose mode blanks and
comments between the characters do not count; the cursor knows the mode and skips them on
request, since inside some constructs they count all the same.

Key definitions: `Regex.Cursor`, `Cursor.bump`, `Cursor.skip`, `Cursor.next`, `Cursor.takeSpaced`.
-/
import StreamEditor.Regex.SyntaxError
import StreamEditor.Unicode.Binary

namespace StreamEditor
namespace Regex

/-- The rest of a pattern, the place it begins at, and whether blanks count. -/
structure Cursor where
  rest : List Char
  pos : Position
  verbose : Bool
  deriving Repr

/-- Whether a character is a blank. -/
def isBlank (c : Char) : Bool :=
  if c.toNat < 128 then c == ' ' || decide (9 ≤ c.toNat) && decide (c.toNat ≤ 13)
  else Unicode.Binary.whiteSpace.mem c.toNat

namespace Cursor

/-- The cursor before the first character of a pattern. -/
def ofPattern (pattern : List Char) : Cursor :=
  ⟨pattern, Position.start, false⟩

/-- The cursor after the next character. -/
def bump (c : Cursor) : Cursor :=
  match c.rest with
  | [] => c
  | ch :: cs => { c with rest := cs, pos := c.pos.after ch }

/-- The cursor after the next `n` characters. -/
def bumps : Nat → Cursor → Cursor
  | 0, c => c
  | n + 1, c => bumps n c.bump

/-- The empty span at the cursor. -/
def here (c : Cursor) : Span :=
  ⟨c.pos, c.pos⟩

/-- The span of the next character. -/
def charSpan (c : Cursor) : Span :=
  ⟨c.pos, c.bump.pos⟩

/-- Drops blanks and comments; a comment runs from a number sign to the end of its line. -/
def skipFrom : Bool → List Char → Position → List Char × Position
  | _, [], p => ([], p)
  | false, ch :: cs, p =>
    if isBlank ch then skipFrom false cs (p.after ch)
    else if ch == '#' then skipFrom true cs (p.after ch)
    else (ch :: cs, p)
  | true, ch :: cs, p => skipFrom (ch != '\n') cs (p.after ch)

/-- The cursor after the blanks and comments that do not count. -/
def skip (c : Cursor) : Cursor :=
  if c.verbose then
    let (rest, pos) := skipFrom false c.rest c.pos
    { c with rest, pos }
  else c

/-- The cursor after the next character and the blanks behind it. -/
def next (c : Cursor) : Cursor := c.bump.skip

/-- Drops blanks, whether they count or not. -/
def dropBlanksFrom : List Char → Position → List Char × Position
  | [], p => ([], p)
  | ch :: cs, p => if isBlank ch then dropBlanksFrom cs (p.after ch) else (ch :: cs, p)

/-- The cursor after the blanks at it, whether they count or not. -/
def dropBlanks (c : Cursor) : Cursor :=
  let (rest, pos) := dropBlanksFrom c.rest c.pos
  { c with rest, pos }

/-- The characters ahead that satisfy `p`, with the blanks between them skipped; `fuel` bounds
their number. -/
def takeSpacedFrom (p : Char → Bool) : Nat → List Char → Cursor → List Char × Cursor
  | 0, taken, c => (taken.reverse, c)
  | fuel + 1, taken, c =>
    match c.rest with
    | ch :: _ => if p ch then takeSpacedFrom p fuel (ch :: taken) c.next else (taken.reverse, c)
    | [] => (taken.reverse, c)

/-- The characters ahead that satisfy `p`, with the blanks between them skipped. -/
def takeSpaced (p : Char → Bool) (c : Cursor) : List Char × Cursor :=
  takeSpacedFrom p c.rest.length [] c

/-- The first character of a text that is no blank, where a number sign counts as a blank. -/
def firstSolid : Bool → List Char → Option Char
  | _, [] => none
  | inComment, ch :: cs =>
    if isBlank ch then firstSolid inComment cs
    else if !inComment && ch == '#' then firstSolid true cs
    else some ch

/-- The character after the next one; in verbose mode, past the blanks between the two. -/
def peek? (c : Cursor) : Option Char :=
  if c.verbose then firstSolid false c.rest.tail else c.rest.tail.head?

/-- A fault at a span. -/
def fail {α : Type} (fault : Fault) (span : Span) : Except SyntaxError α :=
  .error ⟨fault, span, none⟩

/-- A fault at a span that clashes with an earlier one. -/
def failAgainst {α : Type} (fault : Fault) (span clash : Span) : Except SyntaxError α :=
  .error ⟨fault, span, some clash⟩

end Cursor
end Regex
end StreamEditor
