/-
# Ranges of lines

A range of lines is written `START,END`, with both lines included and counted from 1; a letter
`p` behind it is dropped. The ends are any signed words of 64 bits, and a range whose start lies
past its end selects nothing.

Key definitions: `LineRange`, `LineRange.contains`, `LineRange.parse`, `LineRange.text`.
-/
import StreamEditor.Text.Fields
import StreamEditor.Text.Numeral
import StreamEditor.Text.Quoted

namespace StreamEditor

/-- The lines from `start` to `stop`, both included. -/
structure LineRange where
  start : Int
  stop : Int
  deriving DecidableEq, Repr

/-- Why a text is no range. -/
inductive RangeError where
  | tokenCount (expr : String)
  | number (token : String) (fault : Numeral.Fault)
  deriving DecidableEq, Repr

/-- A fault of a range in words. -/
def RangeError.message : RangeError → String
  | tokenCount expr => "invalid range expression: " ++ expr
  | number token fault => "invalid line number " ++ Quoted.text token ++ ": " ++ fault.message

namespace LineRange

/-- Whether a line lies in the range. A line past the greatest end a range can have counts as
that end. -/
def contains (r : LineRange) (line : Nat) : Bool :=
  let i := min (line : Int) Numeral.greatest
  decide (r.start ≤ i) && decide (i ≤ r.stop)

/-- The range as it is written. -/
def text (r : LineRange) : String :=
  toString r.start ++ "," ++ toString r.stop

/-- A token without one `p` at its end. -/
def withoutLetter (token : List Char) : List Char :=
  if token.getLast? == some 'p' then token.dropLast else token

/-- Reads the number of a line. -/
def readNumber (token : List Char) : Except RangeError Int :=
  match Numeral.read token with
  | .ok n => .ok n
  | .error fault => .error (.number (String.ofList token) fault)

/-- Reads a range. -/
def parse (expr : String) : Except RangeError LineRange :=
  match Fields.split ',' expr.toList with
  | [start, stop] => do
    let a ← readNumber start
    let b ← readNumber (withoutLetter stop)
    .ok ⟨a, b⟩
  | _ => .error (.tokenCount expr)

end LineRange
end StreamEditor
