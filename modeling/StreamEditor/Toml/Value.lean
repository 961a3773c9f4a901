/-
# Values of a configuration text

A value is told by its first character: a quote, a bracket, a brace, a digit or sign, or the
letter of `true`, `false`, `inf` or `nan`. An array has values between brackets, parted by commas,
with any space around them, and a comma may follow the last. A table in braces has keys with
values on one line, and no comma after the last; dots in its keys imply tables inside it. Arrays
and tables are nested fewer than eighty deep.

Key definitions: `Key.read`, `Key.readPath`, `Table.modifyAt`, `Item.read`.
-/
import StreamEditor.Toml.Date
import StreamEditor.Toml.Number

namespace StreamEditor
namespace Toml

/-! ### Keys -/

/-- How deep constructs may not be nested. -/
def maxDepth : Nat := 80

namespace Key

/-- Reads a single key, bare or between quotes. -/
def read (c : Cursor) : Reading Key :=
  let spanned (r : Reading String) : Reading Key :=
    r.map fun (text, after) => (⟨text, ⟨c.pos, after.pos⟩⟩, after)
  match c.peek? with
  | some '"' => spanned (Quotation.basic c)
  | some '\'' => spanned (Quotation.literal c)
  | _ =>
    let (text, after) := c.takeWhile isBare
    if text.isEmpty then c.fail else spanned (.ok (String.ofList text, after))

/-- Reads a key with the blanks around it. -/
def readSpaced (c : Cursor) : Except Fault (Key × Cursor) := do
  let (key, c) ← read c.blanks
  .ok (key, c.blanks)

/-- Reads the keys that follow the first one, each behind a dot; a dot without a key behind it is
left alone. `fuel` bounds their number. -/
def readMore : Nat → Cursor → Except Fault (List Key × Cursor)
  | 0, c => .ok ([], c)
  | fuel + 1, c =>
    if c.isAt '.' then
      match readSpaced c.bump with
      | .ok (key, after) => do
        let (keys, after) ← readMore fuel after
        .ok (key :: keys, after)
      | .error f => if f.begun then .error f else .ok ([], c)
    else .ok ([], c)

/-- Reads a path of keys with dots between them. -/
def readPath (c : Cursor) : Except Fault (List Key × Cursor) := do
  let (keys, after) ← (do
    let (key, c) ← readSpaced c
    let (keys, c) ← readMore c.rest.length c
    .ok (key :: keys, c)).mapError (Fault.within .key)
  if maxDepth ≤ keys.length then .error (.caused c.pos .tooDeep) else .ok (keys, after)

end Key

/-! ### Tables that keys imply -/

namespace Table

/-- Changes the table that a path of keys leads to, making the tables on the way that are not
there, and gives what the change gives. Keys with dots make tables only inside others that they
made; they do not reach into a table that was written itself. The path was `whole` at the start,
and `depth` keys of it are behind. -/
def modifyAt {α : Type} (dotted : Bool) (f : Table → Except Cause (α × Table))
    (whole : List Key) : Nat → List Key → Table → Except Cause (α × Table)
  | _, [], t => f t
  | depth, key :: keys, t =>
    let refuse (kind : String) : Cause := .extension (whole.take (depth + 1)) kind
    match t.get? key.text with
    | none => do
      let inner := .implied t.form.inBraces dotted
      let (a, inner) ← modifyAt dotted f whole (depth + 1) keys inner
      .ok (a, t.put key (.table inner))
    | some (.table inner) =>
      if inner.form.inBraces != t.form.inBraces then .error (refuse (Item.table inner).kind)
      else if dotted && !inner.form.implied then .error (.duplicate key.text none)
      else do
        let (a, inner) ← modifyAt dotted f whole (depth + 1) keys inner
        .ok (a, t.put key (.table inner))
    | some (.tables tables) =>
      match tables.getLast? with
      | none => .error (refuse (Item.tables tables).kind)
      | some inner => do
        let (a, inner) ← modifyAt dotted f whole (depth + 1) keys inner
        .ok (a, t.put key (.tables (tables.dropLast ++ [inner])))
    | some item => .error (refuse item.kind)

/-- Adds an item under a path of keys. The last key has to be new in its table, and that table
made by keys with dots exactly if this one has dots; `owner` is the path that a clash is told
with. -/
def add (owner : Option (List Key)) (path : List Key) (key : Key) (item : Item) (t : Table) :
    Except Cause Table :=
  let change (t : Table) : Except Cause (Unit × Table) :=
    if t.form.dotted == path.isEmpty then .error (.duplicate key.text none)
    else if (t.get? key.text).isSome then .error (.duplicate key.text owner)
    else .ok ((), t.put key item)
  (modifyAt true change path 0 path t).map (·.2)

end Table

/-! ### Values -/

namespace Item

/-- Reads a word. -/
def word (text : String) (value : Scalar) (c : Cursor) : Reading Scalar :=
  if text.toList.isPrefixOf c.rest then .ok (value, c.bumps text.length)
  else .error (Fault.bare c.pos |>.within .string |>.expecting [.token "\"", .token "'"])

/-- Reads a value without parts. -/
def scalarAt (c : Cursor) : Reading Scalar :=
  match c.peek? with
  | none => c.fail
  | some ch =>
    if ch == '"' || ch == '\'' then
      (Quotation.string c).map fun (text, c) => (.string text, c)
    else if ch == '+' || ch == '-' || ch.isDigit then
      if Date.isDate c then (Date.dateTime c).map fun c => (.dateTime, c)
      else
        match Date.time c with
        | .ok c => .ok (.dateTime, c)
        | .error f => if f.begun then .error (f.within .time) else Number.number c
    else if ch == '_' then
      .error (Fault.bare c.pos |>.within .integer |>.expecting [.words "leading digit"])
    else if ch == '.' then
      .error (Fault.bare c.pos |>.within .float |>.expecting [.words "leading digit"])
    else if ch == 't' then (word "true" (.boolean true) c).mapError Fault.firm
    else if ch == 'f' then (word "false" (.boolean false) c).mapError Fault.firm
    else if ch == 'i' then word "inf" (.float false .infinite) c
    else if ch == 'n' then word "nan" .notANumber c
    else .error (Fault.bare c.pos |>.within .string |>.expecting [.token "\"", .token "'"])

/-- Reads a value of an array with the space around it. -/
def element (value : Cursor → Reading Item) (c : Cursor) : Except Fault (Item × Cursor) := do
  let c ← c.space
  let (item, c) ← value c
  let c ← c.space
  .ok (item, c)

/-- Reads the values of an array that follow the first one, each behind a comma; a comma without a
value behind it is left alone. `fuel` bounds their number. -/
def elementsMore (value : Cursor → Reading Item) :
    Nat → Cursor → Except Fault (List Item × Cursor)
  | 0, c => .ok ([], c)
  | fuel + 1, c =>
    if c.isAt ',' then
      match element value c.bump with
      | .ok (item, after) => do
        let (items, after) ← elementsMore value fuel after
        .ok (item :: items, after)
      | .error f => if f.begun then .error f else .ok ([], c)
    else .ok ([], c)

/-- Reads the values of an array and the comma after the last. -/
def elements (value : Cursor → Reading Item) (c : Cursor) :
    Except Fault (List Item × Cursor) :=
  match element value c with
  | .error f => if f.begun then .error f else .ok ([], c)
  | .ok (item, after) => do
    let (items, after) ← elementsMore value after.rest.length after
    .ok (item :: items, (after.after? ',').getD after)

/-- Reads an array. -/
def arrayAt (value : Cursor → Reading Item) (c : Cursor) : Except Fault (Item × Cursor) := do
  let (items, after) ← elements value c.bump
  let after ← after.space.mapError Fault.firm
  if after.isAt ']' then .ok (.array items ⟨c.pos, after.bump.pos⟩, after.bump)
  else .error (Fault.bare after.pos |>.within .array |>.expecting [.token "]"] |>.firm)

/-- What may follow a key. -/
def separators : List Expected := [.token ".", .token "="]

/-- Reads a key with its value. -/
def pair (value : Cursor → Reading Item) (c : Cursor) :
    Except Fault ((List Key × Item) × Cursor) := do
  let (path, c) ← Key.readPath c
  if c.isAt '=' then
    match value c.bump.blanks with
    | .ok (item, c) => .ok ((path, item), c.blanks)
    | .error f => .error f.firm
  else .error (Fault.bare c.pos |>.expecting separators |>.firm)

/-- Reads the keys with values that follow the first one, each behind a comma; a comma without a
key behind it is left alone. `fuel` bounds their number. -/
def pairsMore (value : Cursor → Reading Item) :
    Nat → Cursor → Except Fault (List (List Key × Item) × Cursor)
  | 0, c => .ok ([], c)
  | fuel + 1, c =>
    if c.isAt ',' then
      match pair value c.bump with
      | .ok (entry, after) => do
        let (entries, after) ← pairsMore value fuel after
        .ok (entry :: entries, after)
      | .error f => if f.begun then .error f else .ok ([], c)
    else .ok ([], c)

/-- Reads keys with values. -/
def pairs (value : Cursor → Reading Item) (c : Cursor) :
    Except Fault (List (List Key × Item) × Cursor) :=
  match pair value c with
  | .error f => if f.begun then .error f else .ok ([], c)
  | .ok (entry, after) => do
    let (entries, after) ← pairsMore value after.rest.length after
    .ok (entry :: entries, after)

/-- The table in braces of keys with values. -/
def ofPairs (entries : List (List Key × Item)) (span : Span) : Except Cause Table :=
  entries.foldlM
    (fun t (path, item) =>
      match path.getLast? with
      | some key => Table.add none path.dropLast key item t
      | none => .ok t)
    (.written true (some span))

/-- Reads a table in braces. -/
def tableAt (value : Cursor → Reading Item) (c : Cursor) : Except Fault (Item × Cursor) := do
  let (entries, after) ← pairs value c.bump
  let after := after.blanks
  let refuse (cause : Cause) : Fault := Fault.caused c.bump.pos cause |>.firm
  let table ← (ofPairs entries ⟨c.pos, after.bump.pos⟩).mapError refuse
  if after.isAt '}' then .ok (.table table, after.bump)
  else .error (Fault.bare after.pos |>.within .inlineTable |>.expecting [.token "\x7d"] |>.firm)

/-- Reads a value with constructs nested at most `depth` deep in it. -/
def readAt (depth : Nat) (c : Cursor) : Reading Item :=
  if c.isAt '[' || c.isAt '\x7b' then
    match depth with
    | 0 => .error (Fault.caused c.pos .tooDeep |>.firm)
    | depth + 1 =>
      if c.isAt '[' then arrayAt (readAt depth) c else tableAt (readAt depth) c
  else (scalarAt c).map fun (value, after) => (.scalar value ⟨c.pos, after.pos⟩, after)

/-- Reads a value. -/
def read (c : Cursor) : Reading Item := readAt (maxDepth - 1) c

end Item
end Toml
end StreamEditor
