/-
# Reading a configuration text

A cursor is the rest of a text with the place it begins at, in bytes. Blanks are the space and the
tab; a line ends with a line feed, which a carriage return may precede, or with the text. A comment
runs from a number sign to the end of its line and holds no control characters but tabs.

Key definitions: `Toml.Cursor`, `Toml.Reading`, `Cursor.blanks`, `Cursor.newline`,
`Cursor.lineEnd`, `Cursor.space`.
-/
import StreamEditor.Toml.Fault

namespace StreamEditor
namespace Toml

/-- The rest of a text and the place it begins at. -/
structure Cursor where
  rest : List Char
  pos : Nat
  deriving Repr

/-- What reading a construct gives: the construct with the rest of the text, or a fault. -/
abbrev Reading (α : Type) := Except Fault (α × Cursor)

/-- Whether a character is a blank. -/
def isBlank (c : Char) : Bool := c == ' ' || c == '\t'

namespace Cursor

/-- The cursor before the first character of a text. -/
def ofText (text : String) : Cursor := ⟨text.toList, 0⟩

/-- The cursor after the next character. -/
def bump (c : Cursor) : Cursor :=
  match c.rest with
  | [] => c
  | ch :: cs => ⟨cs, c.pos + ch.utf8Size⟩

/-- The cursor after the next `n` characters. -/
def bumps : Nat → Cursor → Cursor
  | 0, c => c
  | n + 1, c => bumps n c.bump

/-- The next character. -/
def peek? (c : Cursor) : Option Char := c.rest.head?

/-- Whether the next character is `ch`. -/
def isAt (c : Cursor) (ch : Char) : Bool := c.peek? == some ch

/-- A fault at the cursor. -/
def fail {α : Type} (c : Cursor) : Except Fault α := .error (.bare c.pos)

/-- The characters ahead that satisfy `p`, and the cursor after them. -/
def takeWhile (p : Char → Bool) (c : Cursor) : List Char × Cursor :=
  let taken := c.rest.takeWhile p
  (taken, c.bumps taken.length)

/-- The cursor after the characters ahead that satisfy `p`. -/
def dropWhile (p : Char → Bool) (c : Cursor) : Cursor := (c.takeWhile p).2

/-- The cursor after a character, if it is the next one. -/
def after? (ch : Char) (c : Cursor) : Option Cursor :=
  if c.isAt ch then some c.bump else none

/-- The cursor after the blanks ahead. -/
def blanks (c : Cursor) : Cursor := c.dropWhile isBlank

/-- The cursor after the end of a line. A carriage return without a line feed is a fault behind
it, as is any other character. -/
def newline (c : Cursor) : Except Fault Cursor :=
  match c.rest with
  | '\n' :: _ => .ok c.bump
  | '\r' :: '\n' :: _ => .ok c.bump.bump
  | _ => c.bump.fail

/-- The cursor after the end of a line, if it is next. -/
def newline? (c : Cursor) : Option Cursor := c.newline.toOption

/-- The cursor after the end of a line or at the end of the text. -/
def lineEnd (c : Cursor) : Except Fault Cursor :=
  if c.rest.isEmpty then .ok c
  else
    match c.newline? with
    | some c => .ok c
    | none => c.fail

/-- The cursor after a comment, if one is next. -/
def comment (c : Cursor) : Cursor :=
  if c.isAt '#' then c.dropWhile fun ch => !isControl ch else c

/-- The cursor after what may follow a construct on its line: blanks, a comment, and the end of
the line. -/
def trailing (c : Cursor) : Except Fault Cursor :=
  c.blanks.comment.lineEnd.mapError (·.expecting [.newline, .token "#"] |>.firm)

/-- The cursor after blanks, comments and ends of lines; `fuel` bounds the number of lines. -/
def spaceFrom : Nat → Cursor → Except Fault Cursor
  | 0, c => .ok c
  | fuel + 1, c => do
    let c := c.blanks
    match c.peek? with
    | some '#' => spaceFrom fuel (← c.comment.newline)
    | some '\n' => spaceFrom fuel (← c.newline)
    | some '\r' => spaceFrom fuel (← c.newline)
    | _ => .ok c

/-- The cursor after blanks, comments and ends of lines. -/
def space (c : Cursor) : Except Fault Cursor :=
  spaceFrom (c.rest.length + 1) c

end Cursor
end Toml
end StreamEditor
