/-
# Configuration texts

A text is a list of statements, each on a line of its own: a key with its value, a header that
opens a table, or a header that opens one more table of an array. The keys up to the next header
belong to the table that the last one opened, and those before the first header to the table of
the whole text. A table has one header at most, and no header if a value or keys with dots made it.

Key definitions: `Toml.Statement`, `Statement.read`, `Toml.Draft`, `Draft.apply`,
`Toml.parse`.
-/
import StreamEditor.Toml.Value

namespace StreamEditor
namespace Toml

/-- What one line of a text says. -/
inductive Statement where
  | pair (path : List Key) (key : Key) (item : Item)
  | header (path : List Key) (key : Key) (span : Span)
  | arrayHeader (path : List Key) (key : Key) (span : Span)

namespace Statement

/-- A path of keys as the path to its last key and that key. -/
def splitLast : List Key → Option (List Key × Key)
  | [] => none
  | [key] => some ([], key)
  | key :: keys => (splitLast keys).map fun (path, last) => (key :: path, last)

/-- Reads a key with its value, and the rest of its line. -/
def readPair (c : Cursor) : Except Fault (Statement × Cursor) := do
  let (keys, after) ← (Key.readPath c).mapError Fault.firm
  if after.isAt '=' then
    let (item, after) ← (Item.read after.bump.blanks).mapError Fault.firm
    let after ← after.trailing
    match splitLast keys with
    | some (path, key) => .ok (pair path key item, after)
    | none => c.fail
  else .error (Fault.bare after.pos |>.expecting Item.separators |>.firm)

/-- Reads a header between brackets, `size` on either side, and the rest of its line. -/
def readBrackets (size : Nat) (make : List Key → Key → Span → Statement) (c : Cursor) :
    Except Fault (Statement × Cursor) := do
  let (keys, after) ← Key.readPath (c.bumps size)
  let close := List.replicate size ']'
  if close.isPrefixOf after.rest then
    let stop := after.bumps size
    let next ← stop.trailing
    match splitLast keys with
    | some (path, key) => .ok (make path key ⟨c.pos, stop.pos⟩, next)
    | none => c.fail
  else
    .error (Fault.bare after.pos |>.expecting [.token ".", .token (String.ofList close)])

/-- Reads a header, and the rest of its line. -/
def readHeader (c : Cursor) : Reading Statement :=
  let reading :=
    match c.rest with
    | '[' :: '[' :: _ => readBrackets 2 arrayHeader c
    | '[' :: _ :: _ => readBrackets 1 header c
    | _ => c.fail
  reading.mapError fun f => (f.within .tableHeader).firm

/-- Reads a statement, and the rest of its line. -/
def read (c : Cursor) : Reading Statement :=
  if c.isAt '[' then readHeader c else readPair c

/-- The fault of a statement at `pos` that is well formed and refused. -/
def refuse (s : Statement) (pos : Nat) (cause : Cause) : Fault :=
  match s with
  | pair _ _ _ => .caused pos cause
  | _ => Fault.caused pos cause |>.within .tableHeader

end Statement

/-- What the statements so far say: the tables that are finished, the one that is open with the
path to it, and whether that one belongs to an array. The table of the whole text has no path. -/
structure Draft where
  finished : Table
  current : Table
  path : Option (List Key × Key)
  inArray : Bool

namespace Draft

/-- What no statement says. -/
def empty : Draft :=
  ⟨.written false none, .written false (some ⟨0, 0⟩), none, false⟩

/-- The keys that lead to the table that is open. -/
def keys (d : Draft) : List Key :=
  match d.path with
  | some (path, key) => path ++ [key]
  | none => []

/-- The tables with the open one put in its place. -/
def close (d : Draft) : Except Cause Table :=
  match d.path with
  | none => .ok d.current
  | some (path, key) =>
    let change (t : Table) : Except Cause (Unit × Table) :=
      if d.inArray then
        match t.get? key.text with
        | none => .ok ((), t.put key (.tables [d.current]))
        | some (.tables tables) => .ok ((), t.put key (.tables (tables ++ [d.current])))
        | some _ => .error (.duplicate key.shown (some path))
      else .ok ((), t.put key (.table d.current))
    (Table.modifyAt false change path 0 path d.finished).map (·.2)

/-- Opens a table, which may be implied already. -/
def openTable (t : Table) (path : List Key) (key : Key) (span : Span) : Except Cause Draft := do
  let change (t : Table) : Except Cause (Table × Table) :=
    match t.get? key.text with
    | none => .ok (.written false none, t)
    | some (.table inner) =>
      if inner.form.implied && !inner.form.dotted && !inner.form.inBraces then
        .ok (inner, t.erase key.text)
      else .error (.duplicate key.shown (some path))
    | some _ => .error (.duplicate key.shown (some path))
  let (inner, finished) ← Table.modifyAt false change path 0 path t
  .ok ⟨finished, { inner with form := ⟨false, false, false⟩, span := some span }, some (path, key),
    false⟩

/-- Opens one more table of an array. -/
def openElement (t : Table) (path : List Key) (key : Key) (span : Span) : Except Cause Draft := do
  let change (t : Table) : Except Cause (Unit × Table) :=
    match t.get? key.text with
    | none => .ok ((), t.put key (.tables []))
    | some (.tables _) => .ok ((), t)
    | some _ => .error (.duplicate key.shown (some path))
  let (_, finished) ← Table.modifyAt false change path 0 path t
  .ok ⟨finished, .written false (some span), some (path, key), true⟩

/-- What the statements say with one more. The open table reaches up to its last value. -/
def apply (d : Draft) : Statement → Except Cause Draft
  | .pair path key item => do
    let span :=
      match d.current.span, item.span with
      | some outer, some inner => some ⟨outer.start, inner.stop⟩
      | span, _ => span
    let current ← Table.add (some d.keys) path key item { d.current with span }
    .ok { d with current }
  | .header path key span => do openTable (← d.close) path key span
  | .arrayHeader path key span => do openElement (← d.close) path key span

end Draft

/-- Reads statements up to the end of the text; `fuel` bounds the number of lines. -/
def statements : Nat → Draft → Cursor → Except Fault Draft
  | 0, d, _ => .ok d
  | fuel + 1, d, c =>
    let c := c.blanks
    match c.peek? with
    | none => .ok d
    | some '#' => do statements fuel d (← c.comment.lineEnd)
    | some '\n' => statements fuel d c.bump
    | some '\r' =>
      match c.newline? with
      | some c => statements fuel d c
      | none => c.fail
    | some _ => do
      let (s, after) ← Statement.read c
      let d ← (d.apply s).mapError (s.refuse c.pos)
      statements fuel d after

/-- The cursor after a mark of the byte order, if the text begins with one. -/
def withoutMark (c : Cursor) : Cursor :=
  if c.isAt (Char.ofNat 0xFEFF) then c.bump else c

/-- The table that a text says. -/
def parse (text : String) : Except Report Table :=
  let c := withoutMark (.ofText text)
  match statements (c.rest.length + 1) .empty c with
  | .error f => .error (.ofFault text f)
  | .ok d => d.close.mapError fun cause => ⟨cause.what, none⟩

end Toml
end StreamEditor
