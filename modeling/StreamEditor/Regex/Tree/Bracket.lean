/-
# Bracketed classes of patterns

A class between brackets is read from left to right with the classes still open on a stack.
Operators between its parts group to the left, and what follows an operator up to the next one
is one union. A bracket or a hyphen at a place where it can mean nothing else stands for itself.

Key definitions: `Regex.Bracket.Level`, `Regex.Bracket.loop`, `Regex.Bracket.read`.
-/
import StreamEditor.Regex.Tree.Escape

namespace StreamEditor
namespace Regex
namespace Bracket

open Cursor

/-- A class that has been opened and not closed: the span of its opening, whether it is
negated, the operator and left-hand side that wait for a right-hand side, and the items of the
union being read, the latest first. -/
structure Level where
  opening : Span
  negated : Bool
  pending : Option (ClassOp × ClassSet)
  items : List ClassSet
  itemsStart : Position

namespace Level

/-- The union of the items read so far; a single item is its own union. -/
def union (l : Level) : ClassSet :=
  match l.items with
  | [] => .union ⟨l.itemsStart, l.itemsStart⟩ []
  | [item] => item
  | last :: before =>
    .union ⟨(before.getLast?.getD last).span.start, last.span.stop⟩ (last :: before).reverse

/-- All that was read of the class so far, with the waiting operator applied. -/
def set (l : Level) : ClassSet :=
  match l.pending with
  | some (op, lhs) => .combined ⟨lhs.span.start, l.union.span.stop⟩ op lhs l.union
  | none => l.union

/-- The class with one more item. -/
def push (l : Level) (item : ClassSet) : Level :=
  { l with items := item :: l.items }

/-- The class after an operator. -/
def operator (l : Level) (op : ClassOp) (after : Position) : Level :=
  { l with pending := some (op, l.set), items := [], itemsStart := after }

end Level

/-- The characters that stand for themselves right after the opening: hyphens, then a closing
bracket if there was no hyphen. `open_` is the place of the bracket. -/
def hyphens (open_ : Position) : Nat → List ClassSet → Cursor →
    Except SyntaxError (List ClassSet × Cursor)
  | 0, items, c => .ok (items, c)
  | fuel + 1, items, c =>
    match c.rest with
    | '-' :: _ =>
      let item := ClassSet.literal ⟨c.charSpan, '-', false⟩
      if c.next.rest.isEmpty then fail .classUnclosed ⟨open_, open_⟩
      else hyphens open_ fuel (item :: items) c.next
    | _ => .ok (items, c)

/-- Opens a class; the cursor is at the bracket. -/
def openClass (c : Cursor) : Except SyntaxError (Level × Cursor) := do
  let start := c.pos
  let d := c.next
  if d.rest.isEmpty then fail .classUnclosed ⟨start, d.pos⟩
  else
    let negated := d.rest.head? == some '^'
    let e := if negated then d.next else d
    if e.rest.isEmpty then fail .classUnclosed ⟨start, e.pos⟩
    else
      let (items, f) ← hyphens start e.rest.length [] e
      if items.isEmpty && f.rest.head? == some ']' then
        let item := ClassSet.literal ⟨f.charSpan, ']', false⟩
        if f.next.rest.isEmpty then fail .classUnclosed ⟨start, f.next.pos⟩
        else .ok (⟨⟨start, f.next.pos⟩, negated, none, [item], e.pos⟩, f.next)
      else .ok (⟨⟨start, f.pos⟩, negated, none, items, e.pos⟩, f)

/-- The characters up to a colon, and the cursor at it. -/
def upToColon : List Char → Position → List Char → List Char × List Char × Position
  | [], p, name => (name.reverse, [], p)
  | ch :: cs, p, name =>
    if ch == ':' then (name.reverse, ch :: cs, p) else upToColon cs (p.after ch) (ch :: name)

/-- Reads a class such as `[:alpha:]`, if one stands at the cursor. -/
def readAscii? (c : Cursor) : Option (ClassSet × Cursor) :=
  let d := c.bump
  if d.rest.head? != some ':' then none
  else
    let e := d.bump
    let negated := e.rest.head? == some '^'
    let f := if negated then e.bump else e
    let (name, rest, pos) := upToColon f.rest f.pos []
    match rest with
    | ':' :: ']' :: _ =>
      let after := bumps 2 { f with rest, pos }
      (AsciiClass.ofName? name).map fun kind => (.ascii ⟨c.pos, after.pos⟩ kind negated, after)
    | _ => none

/-- Reads a single item: an escape sequence, or a character that stands for itself. -/
def readItem (c : Cursor) : Except SyntaxError (Tree × Cursor) :=
  match c.rest with
  | '\\' :: _ => Escape.read c
  | ch :: _ => .ok (.literal ⟨c.charSpan, ch, false⟩, c.bump)
  | [] => fail .classUnclosed c.here

/-- An item as a part of a class; assertions are none. -/
def partOf : Tree → Except SyntaxError ClassSet
  | .literal l => .ok (.literal l)
  | .short s kind negated => .ok (.short s kind negated)
  | .unicode u => .ok (.unicode u)
  | item => fail .classEscapeInvalid item.span

/-- An item as an end of a range, which only a character can be. -/
def boundOf : Tree → Except SyntaxError Literal
  | .literal l => .ok l
  | item => fail .classRangeLiteral item.span

/-- Reads an item or a range; `opening` is the span of the class it stands in. -/
def readRange (opening : Span) (c : Cursor) : Except SyntaxError (ClassSet × Cursor) := do
  let (first, d) ← readItem c
  let d := d.skip
  match d.rest with
  | [] => fail .classUnclosed opening
  | ch :: _ =>
    if ch != '-' || d.peek? == some ']' || d.peek? == some '-' then
      let part ← partOf first
      .ok (part, d)
    else
      let e := d.next
      if e.rest.isEmpty then fail .classUnclosed opening
      else
        let (second, f) ← readItem e
        let span : Span := ⟨first.span.start, second.span.stop⟩
        let lo ← boundOf first
        let hi ← boundOf second
        if lo.char ≤ hi.char then .ok (.range span lo hi, f)
        else fail .classRangeInvalid span

/-- The operator that stands at the cursor as a doubled character. -/
def operatorAt? : List Char → Option ClassOp
  | '&' :: '&' :: _ => some .intersection
  | '-' :: '-' :: _ => some .difference
  | '~' :: '~' :: _ => some .symmetricDifference
  | _ => none

/-- Reads a class to its end: `level` is the innermost open class, `outer` the classes around
it. `fuel` is at least the number of characters left. -/
def loop : Nat → Level → List Level → Cursor → Except SyntaxError (Tree × Cursor)
  | 0, level, _, _ => fail .classUnclosed level.opening
  | fuel + 1, level, outer, c => do
    let c := c.skip
    match c.rest with
    | [] => fail .classUnclosed level.opening
    | '[' :: _ =>
      match readAscii? c with
      | some (item, d) => loop fuel (level.push item) outer d
      | none =>
        let (inner, d) ← openClass c
        loop fuel inner (level :: outer) d
    | ']' :: _ =>
      let set := level.set
      let d := c.bump
      let span : Span := ⟨level.opening.start, d.pos⟩
      match outer with
      | [] => .ok (.bracketed span level.negated set, d)
      | around :: rest => loop fuel (around.push (.bracketed span level.negated set)) rest d
    | rest =>
      match operatorAt? rest with
      | some op =>
        let d := bumps 2 c
        loop fuel (level.operator op d.pos) outer d
      | none =>
        let (item, d) ← readRange level.opening c
        loop fuel (level.push item) outer d

/-- Reads a bracketed class; the cursor is at its opening bracket. -/
def read (c : Cursor) : Except SyntaxError (Tree × Cursor) := do
  let (level, d) ← openClass c
  loop (c.rest.length + 1) level [] d

end Bracket
end Regex
end StreamEditor
