/-
# Bytes and the characters they encode

Input and output are bytes; directives, patterns and messages are text. The module reads the
character at the head of a byte list as UTF-8 has it, tells how many bytes of a broken one
belong together, and turns bytes into text, either exactly or with a replacement character for
each broken part.

Key definitions: `Bytes`, `Utf8.head`, `Utf8.decode?`, `Utf8.lossy`.
-/
namespace StreamEditor

/-- A string of bytes. -/
abbrev Bytes := List UInt8

/-- The bytes of a text in UTF-8. -/
def bytesOf (text : String) : Bytes :=
  text.toList.flatMap String.utf8EncodeChar

namespace Utf8

/-- What stands at the head of a string of bytes. -/
inductive Head where
  /-- Nothing: the string is empty. -/
  | none
  /-- A character and the number of its bytes. -/
  | scalar (code size : Nat)
  /-- The beginning of no character; `size` bytes count as one broken part. -/
  | broken (size : Nat)
  deriving DecidableEq, Repr

/-- Whether a byte continues a character. -/
def isTail (b : UInt8) : Bool :=
  decide (0x80 ≤ b) && decide (b ≤ 0xBF)

/-- The six bits that a continuing byte carries. -/
def tailBits (b : UInt8) : Nat := b.toNat % 64

/-- Whether a second byte may follow the first of a character of three or four bytes: overlong
forms, surrogates and codes past the last plane are cut off here. -/
def isSecond (first second : UInt8) : Bool :=
  if first == 0xE0 then decide (0xA0 ≤ second) && decide (second ≤ 0xBF)
  else if first == 0xED then decide (0x80 ≤ second) && decide (second ≤ 0x9F)
  else if first == 0xF0 then decide (0x90 ≤ second) && decide (second ≤ 0xBF)
  else if first == 0xF4 then decide (0x80 ≤ second) && decide (second ≤ 0x8F)
  else isTail second

/-- Reads a character of two bytes after its first. -/
def headTwo (first : UInt8) : Bytes → Head
  | b :: _ => if isTail b then .scalar (first.toNat % 32 * 64 + tailBits b) 2 else .broken 1
  | [] => .broken 1

/-- Reads a character of three bytes after its first. -/
def headThree (first : UInt8) : Bytes → Head
  | b :: c :: _ =>
    if !isSecond first b then .broken 1
    else if isTail c then .scalar ((first.toNat % 16 * 64 + tailBits b) * 64 + tailBits c) 3
    else .broken 2
  | [b] => if isSecond first b then .broken 2 else .broken 1
  | [] => .broken 1

/-- Reads a character of four bytes after its first. -/
def headFour (first : UInt8) : Bytes → Head
  | b :: rest =>
    if !isSecond first b then .broken 1
    else
      match rest with
      | c :: rest =>
        if !isTail c then .broken 2
        else
          match rest with
          | d :: _ =>
            if isTail d then
              .scalar (((first.toNat % 8 * 64 + tailBits b) * 64 + tailBits c) * 64 + tailBits d) 4
            else .broken 3
          | [] => .broken 3
      | [] => .broken 2
  | [] => .broken 1

/-- What stands at the head of a string of bytes. -/
def head : Bytes → Head
  | [] => .none
  | b :: rest =>
    if b < 0x80 then .scalar b.toNat 1
    else if b < 0xC2 then .broken 1
    else if b < 0xE0 then headTwo b rest
    else if b < 0xF0 then headThree b rest
    else if b < 0xF5 then headFour b rest
    else .broken 1

/-- The characters of a string of bytes, broken parts as `none`; the first `skip` bytes belong
to a character already read. -/
def scan : Nat → Bytes → List (Option Char)
  | _, [] => []
  | skip + 1, _ :: rest => scan skip rest
  | 0, b :: rest =>
    match head (b :: rest) with
    | .none => []
    | .scalar code size => some (Char.ofNat code) :: scan (size - 1) rest
    | .broken size => none :: scan (size - 1) rest

/-- The text that the bytes encode, if they encode one. -/
def decode? (bs : Bytes) : Option String :=
  (scan 0 bs).mapM id |>.map String.ofList

/-- The text of the bytes with U+FFFD for each broken part. -/
def lossy (bs : Bytes) : String :=
  String.ofList ((scan 0 bs).map fun c => c.getD (Char.ofNat 0xFFFD))

end Utf8
end StreamEditor
