/-
# Dates and times

A date is a year of four digits, a month and a day, with hyphens between. A time is hours, minutes
and seconds with colons between, and perhaps a fraction. After a date may come a time, behind a
letter `T` or a space, and after that an offset. A month, day, hour, minute or second that there is
not is refused; the sixtieth second is one that there is.

Key definitions: `Date.isDate`, `Date.time`, `Date.dateTime`.
-/
import StreamEditor.Toml.Cursor

namespace StreamEditor
namespace Toml
namespace Date

/-- Reads a number of `size` digits between two bounds. -/
def field (size least greatest : Nat) (c : Cursor) : Reading Nat :=
  let digits := (c.rest.take size).takeWhile Char.isDigit
  let n := digits.foldl (fun n ch => n * 10 + (ch.toNat - '0'.toNat)) 0
  if digits.length != size then c.fail
  else if n < least || greatest < n then .error (.caused c.pos .outOfRange)
  else .ok (n, c.bumps size)

/-- The cursor after a character, which has to be next. -/
def mark (ch : Char) (c : Cursor) : Except Fault Cursor :=
  match c.after? ch with
  | some c => .ok c
  | none => c.fail

/-- Whether a date is next: four digits and a hyphen. -/
def isDate (c : Cursor) : Bool :=
  ((c.rest.take 4).takeWhile Char.isDigit).length == 4 && (c.rest.drop 4).head? == some '-'

/-- The number of days of a month. -/
def days (year month : Nat) : Nat :=
  if month == 2 then
    if year % 4 == 0 && (year % 100 != 0 || year % 400 == 0) then 29 else 28
  else if [4, 6, 9, 11].contains month then 30
  else 31

/-- The cursor after a date. -/
def date (c : Cursor) : Except Fault Cursor := do
  let (year, c) ← field 4 0 9999 c
  let c ← mark '-' c
  let (month, c) ← field 2 1 12 c
  let c ← mark '-' c
  let (day, after) ← field 2 1 31 c
  if days year month < day then .error (.caused c.pos .outOfRange) else .ok after

/-- The cursor after the fraction of a second, if one is next. -/
def fraction (c : Cursor) : Cursor :=
  if c.isAt '.' && c.bump.peek?.any Char.isDigit then c.bump.dropWhile Char.isDigit else c

/-- The cursor after the minutes and seconds of a time. -/
def minutes (c : Cursor) : Except Fault Cursor := do
  let (_, c) ← field 2 0 59 c
  let c ← mark ':' c
  let (_, c) ← field 2 0 60 c
  .ok (fraction c)

/-- The cursor after a time, which begins with its first colon. -/
def time (c : Cursor) : Except Fault Cursor := do
  let (_, c) ← field 2 0 23 c
  let c ← mark ':' c
  (minutes c).mapError Fault.firm

/-- The cursor after the hours and minutes of an offset. -/
def offsetTime (c : Cursor) : Except Fault Cursor := do
  let (_, c) ← field 2 0 23 c
  let c ← mark ':' c
  let (_, c) ← field 2 0 59 c
  .ok c

/-- The cursor after an offset, if one is next. -/
def offset (c : Cursor) : Except Fault Cursor :=
  match c.peek? with
  | some 'Z' => .ok c.bump
  | some 'z' => .ok c.bump
  | some '+' => (offsetTime c.bump).mapError (·.within .timeOffset)
  | some '-' => (offsetTime c.bump).mapError (·.within .timeOffset)
  | _ => .ok c

/-- The cursor after a time and an offset, if a time is next. -/
def timeOfDay (c : Cursor) : Except Fault Cursor :=
  if c.peek?.any fun ch => ch == 'T' || ch == 't' || ch == ' ' then
    match time c.bump with
    | .ok c => offset c
    | .error f => if f.begun then .error f else .ok c
  else .ok c

/-- The cursor after a date, and a time if one is next. -/
def dateTime (c : Cursor) : Except Fault Cursor :=
  (date c >>= timeOfDay).mapError fun f => (f.within .dateTime).firm

end Date
end Toml
end StreamEditor
