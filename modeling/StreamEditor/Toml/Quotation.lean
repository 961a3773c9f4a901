/-
# Strings of a configuration text

Between double quotes a backslash escapes: a letter stands for a control character, and four or
eight hexadecimal digits for the character they number. Between single quotes nothing is escaped.
Either quote written three times opens a string of many lines, which the first quotes that come
three in a row close; up to two more right before them belong to the string. The end of the line
that it opens on does not belong to it, nor the blanks that follow a backslash at the end of a
line.

Key definitions: `Quotation.basic`, `Quotation.literal`, `Quotation.string`.
-/
import StreamEditor.Toml.Cursor

namespace StreamEditor
namespace Toml
namespace Quotation

/-- The value of a hexadecimal digit. -/
def hexValue? (c : Char) : Option Nat :=
  if c.isDigit then some (c.toNat - '0'.toNat)
  else if 'a' ≤ c && c ≤ 'f' then some (c.toNat - 'a'.toNat + 10)
  else if 'A' ≤ c && c ≤ 'F' then some (c.toNat - 'A'.toNat + 10)
  else none

/-- The value of hexadecimal digits. -/
def hexNumber (digits : List Char) : Nat :=
  digits.foldl (fun n c => n * 16 + (hexValue? c).getD 0) 0

/-- Reads a character by its code of `size` digits. -/
def code (construct : Construct) (size : Nat) (c : Cursor) : Reading Char :=
  let digits := (c.rest.take size).takeWhile fun ch => (hexValue? ch).isSome
  let n := hexNumber digits
  if digits.length != size then .error (Fault.bare c.pos |>.within construct |>.firm)
  else if n.isValidChar then .ok (Char.ofNat n, c.bumps size)
  else .error (Fault.caused c.pos .outOfRange |>.within construct |>.firm)

/-- The letters that may follow a backslash. -/
def escapes : List Expected :=
  ["b", "f", "n", "r", "t", "u", "U", "\\", "\""].map Expected.token

/-- Reads what follows a backslash. -/
def escape (c : Cursor) : Reading Char :=
  match c.peek? with
  | some 'b' => .ok ('\x08', c.bump)
  | some 'f' => .ok ('\x0c', c.bump)
  | some 'n' => .ok ('\n', c.bump)
  | some 'r' => .ok ('\r', c.bump)
  | some 't' => .ok ('\t', c.bump)
  | some 'u' => code .shortCode 4 c.bump
  | some 'U' => code .longCode 8 c.bump
  | some '\\' => .ok ('\\', c.bump)
  | some '"' => .ok ('"', c.bump)
  | some _ =>
    .error (Fault.bare c.bump.pos |>.within .escapeSequence |>.expecting escapes |>.firm)
  | none => c.fail

/-! ### Strings of one line -/

/-- Reads a basic string behind its opening quote; `text` holds what was read, in backward order,
and `fuel` bounds the number of characters. -/
def basicFrom : Nat → List Char → Cursor → Reading String
  | 0, _, c => .error (Fault.bare c.pos |>.within .basicString |>.firm)
  | fuel + 1, text, c =>
    match c.peek? with
    | some '"' => .ok (String.ofList text.reverse, c.bump)
    | some '\\' =>
      match escape c.bump with
      | .ok (ch, c) => basicFrom fuel (ch :: text) c
      | .error f =>
        if f.begun then .error f else .error (Fault.bare c.pos |>.within .basicString |>.firm)
    | some ch =>
      if isControl ch then .error (Fault.bare c.pos |>.within .basicString |>.firm)
      else basicFrom fuel (ch :: text) c.bump
    | none => .error (Fault.bare c.pos |>.within .basicString |>.firm)

/-- Reads a string between double quotes. -/
def basic (c : Cursor) : Reading String :=
  basicFrom c.rest.length [] c.bump

/-- Reads a string between single quotes. -/
def literal (c : Cursor) : Reading String :=
  let (text, c) := c.bump.takeWhile fun ch => !isControl ch && ch != '\''
  if c.isAt '\'' then .ok (String.ofList text, c.bump)
  else .error (Fault.bare c.pos |>.within .literalString |>.firm)

/-! ### Strings of many lines -/

/-- The cursor after blanks and ends of lines; `fuel` bounds their number. -/
def gapFrom : Nat → Cursor → Cursor
  | 0, c => c
  | fuel + 1, c =>
    match c.newline? with
    | some c => gapFrom fuel c
    | none => if c.peek?.any isBlank then gapFrom fuel c.bump else c

/-- The cursor behind a backslash that ends its line, and the blanks that follow. -/
def joint? (c : Cursor) : Option Cursor :=
  c.bump.blanks.newline?.map fun c => gapFrom c.rest.length c

/-- Reads one character or end of line of a string of many lines. `escaping` tells whether a
backslash escapes. -/
def piece (escaping : Bool) (quote : Char) (c : Cursor) : Reading (List Char) :=
  match c.newline? with
  | some c => .ok (['\n'], c)
  | none =>
    match c.peek? with
    | none => c.fail
    | some ch =>
      if escaping && ch == '\\' then
        match joint? c with
        | some c => .ok ([], c)
        | none => (escape c.bump).map fun (ch, c) => ([ch], c)
      else if isControl ch || ch == quote then c.fail
      else .ok ([ch], c.bump)

/-- Reads a string of many lines behind its opening quotes. A run of one or two quotes belongs to
the string if more of it follows; of a longer one the last three close it. -/
def multilineFrom (escaping : Bool) (quote : Char) (construct : Construct) :
    Nat → List Char → Cursor → Reading String
  | 0, _, c => .error (Fault.bare c.pos |>.within construct |>.firm)
  | fuel + 1, text, c =>
    let fault : Fault := Fault.bare c.pos |>.within construct |>.firm
    let run := (c.rest.takeWhile (· == quote)).length
    if 3 ≤ run then
      let extra := min run 5 - 3
      .ok (String.ofList (List.replicate extra quote ++ text).reverse, c.bumps (extra + 3))
    else if 0 < run then
      match piece escaping quote (c.bumps run) with
      | .ok _ =>
        let text := List.replicate run quote ++ text
        multilineFrom escaping quote construct fuel text (c.bumps run)
      | .error f => if f.begun then .error { f with pos := (c.bumps run).pos } else .error fault
    else
      match piece escaping quote c with
      | .ok (chars, c) => multilineFrom escaping quote construct fuel (chars.reverse ++ text) c
      | .error f => if f.begun then .error f else .error fault

/-- Reads a string of many lines; the end of its first line is passed over. -/
def multiline (escaping : Bool) (quote : Char) (construct : Construct) (c : Cursor) :
    Reading String :=
  let c := c.bumps 3
  let c := c.newline?.getD c
  multilineFrom escaping quote construct (c.rest.length + 1) [] c

/-- Reads a string. -/
def string (c : Cursor) : Reading String :=
  match c.rest with
  | '"' :: '"' :: '"' :: _ => multiline true '"' .multilineBasicString c
  | '"' :: _ => basic c
  | '\'' :: '\'' :: '\'' :: _ => multiline false '\'' .multilineLiteralString c
  | _ => literal c

end Quotation
end Toml
end StreamEditor
