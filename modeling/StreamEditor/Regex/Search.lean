/-
# Searching for a match

A search looks for the leftmost match, and among the matches at one place for the one that the
preferences of the pattern put first. It explores the program depth first with a stack of
threads. A split that was reached at a place before is not explored again: it led to no match
then and leads to none now, and so the search takes no more steps than the product of the sizes
of text and program allows.

Key definitions: `Regex.Place`, `Regex.Look.holds`, `Regex.Thread`, `Regex.explore`,
`Regex.Match`, `Regex.Program.search`.
-/
import Std.Data.HashSet
import StreamEditor.Regex.Program
import StreamEditor.Text.Bytes
import StreamEditor.Unicode.Property

namespace StreamEditor
namespace Regex

/-! ### Places in a text -/

/-- A place between two bytes of a text: how many bytes stand before it, these bytes in
backward order, and the bytes after it. -/
structure Place where
  index : Nat
  before : Bytes
  after : Bytes
  deriving DecidableEq, Repr

namespace Place

/-- The place before the first byte of a text. -/
def start (text : Bytes) : Place := ⟨0, [], text⟩

/-- The place after the next byte, if there is one. -/
def advance? (p : Place) : Option (UInt8 × Place) :=
  match p.after with
  | [] => none
  | b :: rest => some (b, ⟨p.index + 1, b :: p.before, rest⟩)

/-- The place `n` bytes on, or at the end of the text. -/
def skip : Nat → Place → Place
  | 0, p => p
  | n + 1, p =>
    match p.after with
    | [] => p
    | b :: rest => skip n ⟨p.index + 1, b :: p.before, rest⟩

/-- The code of the next character and the place after it, if the bytes ahead encode one. -/
def advanceChar? (p : Place) : Option (Nat × Place) :=
  match Utf8.head p.after with
  | .scalar code size => some (code, p.skip size)
  | _ => none

/-- The code of the character ahead, if the bytes ahead encode one. -/
def charAfter? (p : Place) : Option Nat :=
  match Utf8.head p.after with
  | .scalar code _ => some code
  | _ => none

/-- How many of the bytes before a place, at most `room`, reach back to one that can begin a
character. -/
def reach : Nat → Bytes → Nat
  | 0, _ => 0
  | _, [] => 0
  | room + 1, b :: rest => if Utf8.isTail b then 1 + reach room rest else 1

/-- The code of the character that begins at the last byte before the place that can begin one. -/
def charBefore? (p : Place) : Option Nat :=
  match Utf8.head (p.before.take (reach 4 p.before)).reverse with
  | .scalar code _ => some code
  | _ => none

end Place

/-! ### Conditions on places -/

/-- The codes of the parts of words in ASCII. -/
def asciiWord : CodeSet := ⟨[⟨48, 57⟩, ⟨65, 90⟩, ⟨95, 95⟩, ⟨97, 122⟩]⟩

/-- Whether a part of a word ends at the place. -/
def WordKind.before (k : WordKind) (p : Place) : Bool :=
  match k with
  | .unicode => p.charBefore?.any Unicode.Property.word.mem
  | .ascii => p.before.head?.any fun b => asciiWord.mem b.toNat

/-- Whether a part of a word begins at the place. -/
def WordKind.after (k : WordKind) (p : Place) : Bool :=
  match k with
  | .unicode => p.charAfter?.any Unicode.Property.word.mem
  | .ascii => p.after.head?.any fun b => asciiWord.mem b.toNat

/-- Whether the bytes before the place end in a character, or there are none. -/
def WordKind.wholeBefore (k : WordKind) (p : Place) : Bool :=
  k == .ascii || p.before.isEmpty || p.charBefore?.isSome

/-- Whether the bytes after the place begin with a character, or there are none. -/
def WordKind.wholeAfter (k : WordKind) (p : Place) : Bool :=
  k == .ascii || p.after.isEmpty || p.charAfter?.isSome

/-- Whether a condition holds at a place. A condition that asks for no word on some side asks
for a whole character there, so that it never holds inside the bytes of one. -/
def Look.holds (p : Place) : Look → Bool
  | .textStart => p.before.isEmpty
  | .textEnd => p.after.isEmpty
  | .lineStart => p.before.isEmpty || p.before.head? == some 10
  | .lineEnd => p.after.isEmpty || p.after.head? == some 10
  | .lineStartCrlf =>
    p.before.isEmpty || p.before.head? == some 10 ||
      p.before.head? == some 13 && p.after.head? != some 10
  | .lineEndCrlf =>
    p.after.isEmpty || p.after.head? == some 13 ||
      p.after.head? == some 10 && p.before.head? != some 13
  | .wordBoundary k => k.before p != k.after p
  | .notWordBoundary k => k.wholeBefore p && k.wholeAfter p && k.before p == k.after p
  | .wordStart k => !k.before p && k.after p
  | .wordEnd k => k.before p && !k.after p
  | .wordStartHalf k => k.wholeBefore p && !k.before p
  | .wordEndHalf k => k.wholeAfter p && !k.after p

/-! ### Threads -/

/-- The places noted for groups, the latest first: the slot and the place. -/
abbrev Slots := List (Nat × Place)

/-- A way to go on: an instruction, a place, and the places noted so far. -/
structure Thread where
  inst : Nat
  place : Place
  slots : Slots

/-- Whether a split has been explored at a place, under a number made of both. -/
abbrev Visited := Std.HashSet Nat

/-- Explores the threads on a stack, the last one put there first, until one accepts. -/
def explore (prog : Program) : Nat → List Thread → Visited → Option (Place × Slots) × Visited
  | 0, _, visited => (none, visited)
  | _, [], visited => (none, visited)
  | fuel + 1, t :: stack, visited =>
    match prog.insts[t.inst]? with
    | none => explore prog fuel stack visited
    | some .accept => (some (t.place, t.slots), visited)
    | some (.char set next) =>
      match t.place.advanceChar? with
      | some (code, place) =>
        if set.mem code then explore prog fuel (⟨next, place, t.slots⟩ :: stack) visited
        else explore prog fuel stack visited
      | none => explore prog fuel stack visited
    | some (.byte set next) =>
      match t.place.advance? with
      | some (b, place) =>
        if set.mem b.toNat then explore prog fuel (⟨next, place, t.slots⟩ :: stack) visited
        else explore prog fuel stack visited
      | none => explore prog fuel stack visited
    | some (.look l next) =>
      if l.holds t.place then explore prog fuel (⟨next, t.place, t.slots⟩ :: stack) visited
      else explore prog fuel stack visited
    | some (.save slot next) =>
      explore prog fuel (⟨next, t.place, (slot, t.place) :: t.slots⟩ :: stack) visited
    | some (.split first second) =>
      let key := t.inst + prog.insts.size * t.place.index
      if visited.contains key then explore prog fuel stack visited
      else
        explore prog fuel (⟨first, t.place, t.slots⟩ :: ⟨second, t.place, t.slots⟩ :: stack)
          (visited.insert key)

/-- A match: where it starts and stops, and the places noted for groups. -/
structure Match where
  start : Place
  stop : Place
  slots : Slots
  deriving Repr

namespace Match

/-- Whether the match is of empty text. -/
def isEmpty (m : Match) : Bool :=
  m.start.index == m.stop.index

/-- The text of a match. -/
def text (m : Match) : Bytes :=
  m.start.after.take (m.stop.index - m.start.index)

/-- The text of a group; group 0 is the whole match. -/
def group? (m : Match) (index : Nat) : Option Bytes :=
  if index = 0 then some m.text
  else
    match m.slots.lookup (2 * index), m.slots.lookup (2 * index + 1) with
    | some start, some stop => some (start.after.take (stop.index - start.index))
    | _, _ => none

end Match

/-! ### Search -/

namespace Program

/-- Steps that suffice to explore the program from the places of a text of `size` bytes: a split
is explored once at a place and starts two threads, and a thread passes an instruction once
before it reaches a split. -/
def steps (prog : Program) (size : Nat) : Nat :=
  (2 * prog.insts.size * (size + 1) + 1) * (prog.insts.size + 1)

/-- The first match that starts `after` some bytes of the text or later; these bytes are `before`,
in backward order, and `index` is their number. -/
def searchFrom (prog : Program) (fuel : Nat) : Nat → Bytes → Bytes → Visited → Option Match
  | index, before, after, visited =>
    let place : Place := ⟨index, before, after⟩
    match explore prog fuel [⟨prog.entry, place, []⟩] visited with
    | (some (stop, slots), _) => some ⟨place, stop, slots⟩
    | (none, visited) =>
      match after with
      | [] => none
      | b :: rest => searchFrom prog fuel (index + 1) (b :: before) rest visited

/-- The first match at a place or after it. -/
def search (prog : Program) (p : Place) : Option Match :=
  prog.searchFrom (prog.steps p.after.length) p.index p.before p.after ∅

end Program
end Regex
end StreamEditor
