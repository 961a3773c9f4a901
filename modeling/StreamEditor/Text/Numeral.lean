/-
# Whole numbers written in decimal

A numeral is an optional sign and decimal digits, and its value fits a signed word of 64 bits.
It is read from left to right: at each character a character that is no digit is blamed before
the value, and a value out of bounds before the characters that follow.

Key definitions: `Numeral.Fault`, `Numeral.read`.
-/
namespace StreamEditor
namespace Numeral

/-- The least value of a numeral. -/
def least : Int := -Int.ofNat (Nat.pow 2 63)

/-- The greatest value of a numeral. -/
def greatest : Int := Int.ofNat (Nat.pow 2 63 - 1)

/-- What can be wrong with a numeral; a fault may be told in other words. -/
inductive Fault where
  | empty
  | invalidDigit
  | tooLarge
  | tooSmall
  | other (text : String)
  deriving DecidableEq, Repr

/-- A fault in words. -/
def Fault.message : Fault → String
  | empty => "cannot parse integer from empty string"
  | invalidDigit => "invalid digit found in string"
  | tooLarge => "number too large to fit in target type"
  | tooSmall => "number too small to fit in target type"
  | other text => text

/-- The value of a decimal digit. -/
def digit (c : Char) : Int := c.toNat - '0'.toNat

/-- Reads digits after those that made the value `n`, up or down from zero. -/
def readDigits (negative : Bool) : Int → List Char → Except Fault Int
  | n, [] => .ok n
  | n, c :: cs =>
    if c.isDigit then
      let m := if negative then n * 10 - digit c else n * 10 + digit c
      if m < least then .error .tooSmall
      else if greatest < m then .error .tooLarge
      else readDigits negative m cs
    else .error .invalidDigit

/-- Reads a numeral. -/
def read : List Char → Except Fault Int
  | [] => .error .empty
  | ['+'] => .error .invalidDigit
  | ['-'] => .error .invalidDigit
  | '+' :: cs => readDigits false 0 cs
  | '-' :: cs => readDigits true 0 cs
  | cs => readDigits false 0 cs

end Numeral
end StreamEditor
