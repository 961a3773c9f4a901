/-
# Templates of replacements

A template is text with references to the groups of a match: `$1` and `$name`, where the name
is as long as letters, digits and underscores go, or with braces around the name. Two dollar
signs mean one, and a dollar sign that begins no reference stands for itself.

Key definitions: `Regex.Template.Piece`, `Regex.Template.parse`, `Regex.Template.expand`.
-/
import StreamEditor.Regex.Search

namespace StreamEditor
namespace Regex
namespace Template

/-- A piece of a template. -/
inductive Piece where
  | text (bytes : Bytes)
  | group (index : Nat)
  | named (name : String)
  deriving DecidableEq, Repr

/-- Whether a byte may stand in a name without braces. -/
def isNameByte (b : UInt8) : Bool :=
  let c := Char.ofNat b.toNat
  c.isAlphanum || c == '_'

/-- The number that a name writes in decimal, with an optional plus sign, if a machine word of
64 bits holds it. -/
def number? (name : List Char) : Option Nat :=
  let digits :=
    match name with
    | '+' :: rest => rest
    | _ => name
  if digits.isEmpty || !digits.all Char.isDigit then none
  else
    let n := digits.foldl (fun n d => n * 10 + (d.toNat - '0'.toNat)) 0
    if n < Nat.pow 2 64 then some n else none

/-- What a reference with a given name means. -/
def reference (name : String) : Piece :=
  match number? name.toList with
  | some index => .group index
  | none => .named name

/-- The bytes up to a closing brace, and the bytes behind it. -/
def upToBrace : Bytes → Bytes → Option (Bytes × Bytes)
  | _, [] => none
  | name, b :: rest => if b == 125 then some (name.reverse, rest) else upToBrace (b :: name) rest

/-- The reference behind a dollar sign and how many bytes it takes, if there is one. -/
def referenceAt? (after : Bytes) : Option (Piece × Nat) :=
  match after with
  | [] => none
  | 123 :: rest =>
    match upToBrace [] rest with
    | none => none
    | some (name, _) => (Utf8.decode? name).map fun text => (reference text, name.length + 2)
  | _ =>
    let name := after.takeWhile isNameByte
    if name.isEmpty then none
    else
      some (reference (String.ofList (name.map fun b => Char.ofNat b.toNat)), name.length)

/-- The pieces of a template, one for each byte that stands for itself; `skip` bytes belong to a
piece already read. -/
def parseFrom : Nat → Bytes → List Piece
  | _, [] => []
  | skip + 1, _ :: rest => parseFrom skip rest
  | 0, b :: rest =>
    if b != 36 then .text [b] :: parseFrom 0 rest
    else if rest.head? == some 36 then .text [36] :: parseFrom 1 rest
    else
      match referenceAt? rest with
      | some (piece, size) => piece :: parseFrom size rest
      | none => .text [36] :: parseFrom 0 rest

/-- The pieces of a template. -/
def parse (template : String) : List Piece :=
  parseFrom 0 (bytesOf template)

/-- The text of a piece for a match; a group that took no part in it has none. -/
def Piece.text? (names : List (String × Nat)) (m : Match) : Piece → Option Bytes
  | .text bytes => some bytes
  | .group index => m.group? index
  | .named name => (names.lookup name).bind m.group?

/-- The template filled in for a match. -/
def expand (names : List (String × Nat)) (pieces : List Piece) (m : Match) : Bytes :=
  pieces.flatMap fun piece => (piece.text? names m).getD []

end Template
end Regex
end StreamEditor
