/-
# Quoted text

Text is shown between double quotes with the characters escaped that would not show: the common
control characters by a letter, and all that has no shape of its own, or joins the character
before it, by its code in braces. A path need not be text; the bytes that encode no character
are shown by their two hexadecimal digits, and there single quotes are escaped too.

Key definitions: `Quoted.escaped`, `Quoted.text`, `Quoted.path`.
-/
import StreamEditor.Text.Bytes
import StreamEditor.Unicode.Binary
import StreamEditor.Unicode.Category

namespace StreamEditor
namespace Quoted

open Unicode

/-- The codes of characters without a shape: controls, formats, private and unassigned codes,
and all separators but the common blank. -/
def shapeless : CodeSet :=
  (CodeSet.unions (["Cc", "Cf", "Cs", "Co", "Cn", "Zl", "Zp", "Zs"].map Category.members)).diff
    (CodeSet.single 32)

/-- Whether a character is shown as it is. -/
def isShown (c : Char) : Bool :=
  if c.toNat < 128 then decide (32 ≤ c.toNat) && decide (c.toNat < 127)
  else !Binary.graphemeExtend.mem c.toNat && !shapeless.mem c.toNat

/-- A digit of base 16. -/
def hexDigit (upper : Bool) (n : Nat) : Char :=
  if n < 10 then Char.ofNat (48 + n) else Char.ofNat ((if upper then 55 else 87) + n)

/-- The digits of a number in base 16, after those in `digits`; `fuel` bounds their number. -/
def hexFrom : Nat → Nat → List Char → List Char
  | 0, _, digits => digits
  | fuel + 1, n, digits =>
    let digits := hexDigit false (n % 16) :: digits
    if n < 16 then digits else hexFrom fuel (n / 16) digits

/-- A character as it stands between quotes. -/
def escaped (singles : Bool) (c : Char) : List Char :=
  match c with
  | '\x00' => ['\\', '0']
  | '\t' => ['\\', 't']
  | '\n' => ['\\', 'n']
  | '\r' => ['\\', 'r']
  | '"' => ['\\', '"']
  | '\\' => ['\\', '\\']
  | '\'' => if singles then ['\\', '\''] else ['\'']
  | c => if isShown c then [c] else '\\' :: 'u' :: '\x7b' :: (hexFrom 8 c.toNat [] ++ ['\x7d'])

/-- A text between quotes. -/
def text (s : String) : String :=
  String.ofList ('"' :: (s.toList.flatMap (escaped false) ++ ['"']))

/-- A byte by its digits. -/
def rawByte (b : UInt8) : List Char :=
  ['\\', 'x', hexDigit true (b.toNat / 16), hexDigit true (b.toNat % 16)]

/-- The bytes of a path as they stand between quotes; `skip` bytes belong to a character already
shown, and `broken` bytes to a part that encodes none. -/
def pathFrom : Nat → Nat → Bytes → List Char
  | _, _, [] => []
  | skip + 1, broken, _ :: rest => pathFrom skip broken rest
  | 0, broken + 1, b :: rest => rawByte b ++ pathFrom 0 broken rest
  | 0, 0, b :: rest =>
    match Utf8.head (b :: rest) with
    | .none => []
    | .scalar code size => escaped true (Char.ofNat code) ++ pathFrom (size - 1) 0 rest
    | .broken size => rawByte b ++ pathFrom 0 (size - 1) rest

/-- A path between quotes. -/
def path (bs : Bytes) : String :=
  String.ofList ('"' :: (pathFrom 0 0 bs ++ ['"']))

end Quoted
end StreamEditor
