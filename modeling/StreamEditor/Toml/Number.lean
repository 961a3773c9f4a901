/-
# Numbers of a configuration text

Digits may be parted by single underscores. A whole number is decimal, without zeros in front of
it and perhaps with a sign, or hexadecimal, octal or binary behind `0x`, `0o` or `0b`; it fits a
signed word of 64 bits. A number with a fraction or an exponent is a floating-point number, as are
`inf` and `nan`.

Key definitions: `Number.decimal`, `Number.whole`, `Number.float`, `Number.number`.
-/
import StreamEditor.Toml.Item
import StreamEditor.Toml.Quotation

namespace StreamEditor
namespace Toml
namespace Number

/-- Reads digits and the underscores that part them, after those in `text`; `fuel` bounds their
number. -/
def groupsFrom (p : Char → Bool) : Nat → List Char → Cursor → Reading (List Char)
  | 0, text, c => .ok (text.reverse, c)
  | fuel + 1, text, c =>
    match c.rest with
    | '_' :: ch :: _ =>
      if p ch then groupsFrom p fuel (ch :: text) c.bump.bump
      else .error (Fault.bare c.bump.pos |>.expecting [.words "digit"] |>.firm)
    | ['_'] => .error (Fault.bare c.bump.pos |>.expecting [.words "digit"] |>.firm)
    | ch :: _ =>
      if p ch then groupsFrom p fuel (ch :: text) c.bump else .ok (text.reverse, c)
    | [] => .ok (text.reverse, c)

/-- Reads digits and the underscores that part them; the digits alone are given. -/
def groups (p : Char → Bool) (c : Cursor) : Reading (List Char) :=
  match c.rest with
  | ch :: cs => if p ch then groupsFrom p cs.length [ch] c.bump else c.fail
  | [] => c.fail

/-- Reads a sign, if one is next: whether it is a minus. -/
def sign (c : Cursor) : Bool × Cursor :=
  match c.peek? with
  | some '-' => (true, c.bump)
  | some '+' => (false, c.bump)
  | _ => (false, c)

/-- Reads a decimal number: whether it is negative, and its digits. -/
def decimal (c : Cursor) : Reading (Bool × List Char) :=
  let (negative, c) := sign c
  let digits :=
    if c.isAt '0' then .ok (['0'], c.bump) else groups Char.isDigit c
  (digits.mapError (·.within .integer)).map fun (digits, c) => ((negative, digits), c)

/-! ### Whole numbers -/

/-- The whole number of the digits in a base, if it fits. -/
def ofDigits (base : Nat) (digits : List Char) : Except Numeral.Fault Int :=
  let n := digits.foldl (fun n ch => n * base + (Quotation.hexValue? ch).getD 0) 0
  if (n : Int) ≤ Numeral.greatest then .ok n else .error .tooLarge

/-- The base that a letter stands for, its digits, and the name of its numbers. -/
def base? : Char → Option (Nat × (Char → Bool) × Construct)
  | 'x' => some (16, fun ch => (Quotation.hexValue? ch).isSome, .hexadecimal)
  | 'o' => some (8, fun ch => decide ('0' ≤ ch) && decide (ch ≤ '7'), .octal)
  | 'b' => some (2, fun ch => ch == '0' || ch == '1', .binary)
  | _ => none

/-- Reads a whole number, of which the decimal form was read before. -/
def whole (c : Cursor) (negative : Bool) (digits : List Char) (after : Cursor) :
    Except Fault (Scalar × Cursor) :=
  let refuse (f : Numeral.Fault) : Fault := Fault.caused c.pos (.number f) |>.firm
  match c.rest with
  | '0' :: ch :: _ =>
    match base? ch with
    | some (base, p, construct) => do
      let (digits, after) ← (groups p (c.bumps 2)).mapError (·.within construct |>.firm)
      let n ← (ofDigits base digits).mapError refuse
      .ok (.integer n, after)
    | none => .ok (.integer 0, after)
  | _ => do
    let n ← (Numeral.read (if negative then '-' :: digits else digits)).mapError refuse
    .ok (.integer n, after)

/-! ### Floating-point numbers -/

/-- Reads a fraction behind its point, if one is next. -/
def fraction (c : Cursor) : Reading (List Char) :=
  if c.isAt '.' then
    (groups Char.isDigit c.bump).mapError (·.expecting [.words "digit"] |>.firm)
  else .ok ([], c)

/-- The value of decimal digits. -/
def natOf (digits : List Char) : Nat :=
  digits.foldl (fun n ch => n * 10 + (ch.toNat - '0'.toNat)) 0

/-- Reads an exponent behind its letter, if one is next. -/
def exponent (c : Cursor) : Reading Int :=
  if c.isAt 'e' || c.isAt 'E' then
    let (negative, c) := sign c.bump
    match groups Char.isDigit c with
    | .ok (digits, c) => .ok (if negative then -(natOf digits) else natOf digits, c)
    | .error f => .error f.firm
  else .ok (0, c)

/-- Reads the fraction and the exponent of a number whose digits before them were read. A positive
number past all bounds is refused at its start. -/
def float (start : Nat) (negative : Bool) (digits : List Char) (c : Cursor) : Reading Scalar :=
  (do
    let (places, c) ← fraction c
    let (e, c) ← exponent c
    let magnitude := Binary64.ofDecimal (natOf (digits ++ places)) (e - places.length)
    if magnitude == .infinite && !negative then .error (Fault.bare start |>.firm)
    else .ok (.float negative magnitude, c) : Except Fault (Scalar × Cursor)).mapError
      (·.within .float)

/-- Reads a floating-point number that is written as a word, if one is next. -/
def named? (c : Cursor) : Option (Scalar × Cursor) :=
  let (negative, c) := sign c
  match c.rest with
  | 'i' :: 'n' :: 'f' :: _ => some (.float negative .infinite, c.bumps 3)
  | 'n' :: 'a' :: 'n' :: _ => some (.notANumber, c.bumps 3)
  | _ => none

/-- Reads a number that begins with a digit or a sign. -/
def number (c : Cursor) : Reading Scalar :=
  match decimal c with
  | .error f =>
    if f.begun then .error f
    else
      match named? c with
      | some read => .ok read
      | none => .error f
  | .ok ((negative, digits), after) =>
    if after.isAt '.' || after.isAt 'e' || after.isAt 'E' then
      float c.pos negative digits after
    else whole c negative digits after

end Number
end Toml
end StreamEditor
