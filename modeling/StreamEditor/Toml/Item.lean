/-
# What a configuration text says

A text in the TOML format says a table: keys with items, in the order they were first written. An
item is a scalar, an array, a table, or an array of tables that are written one by one. Each knows
the stretch of the text it was written at, except tables that only keys or headers inside them
imply.

Key definitions: `Toml.Scalar`, `Toml.Form`, `Toml.TableOf`, `Toml.Item`, `Toml.Table`,
`Item.kind`.
-/
import StreamEditor.Text.Binary64
import StreamEditor.Toml.Fault

namespace StreamEditor
namespace Toml

/-- A value without parts. Of dates and times nothing but their presence is kept. -/
inductive Scalar where
  | string (text : String)
  | integer (n : Int)
  | float (negative : Bool) (magnitude : Binary64)
  | notANumber
  | boolean (b : Bool)
  | dateTime
  deriving DecidableEq, Repr

/-- How a table came to be: written between braces or not, implied or written itself, and implied
by a key with dots or not. -/
structure Form where
  inBraces : Bool
  implied : Bool
  dotted : Bool
  deriving DecidableEq, Repr

/-- A table of items of a type, in the order of their keys. -/
structure TableOf (α : Type) where
  form : Form
  entries : List (Key × α)
  span : Option Span

/-- What a key can stand for. -/
inductive Item where
  | scalar (value : Scalar) (span : Span)
  | array (items : List Item) (span : Span)
  | table (table : TableOf Item)
  | tables (tables : List (TableOf Item))

/-- A table of items. -/
abbrev Table := TableOf Item

namespace TableOf

/-- A table that is written itself. -/
def written {α : Type} (inBraces : Bool) (span : Option Span) : TableOf α :=
  ⟨⟨inBraces, false, false⟩, [], span⟩

/-- A table that is implied. -/
def implied {α : Type} (inBraces dotted : Bool) : TableOf α :=
  ⟨⟨inBraces, true, dotted⟩, [], none⟩

/-- The item of a key. -/
def get? {α : Type} (t : TableOf α) (key : String) : Option α :=
  (t.entries.find? (·.1.text == key)).map (·.2)

/-- The table with an item for a key, which keeps its place or comes last. -/
def put {α : Type} (t : TableOf α) (key : Key) (item : α) : TableOf α :=
  if t.entries.any (·.1.text == key.text) then
    { t with entries := t.entries.map fun e => if e.1.text == key.text then (e.1, item) else e }
  else { t with entries := t.entries ++ [(key, item)] }

/-- The table without a key. -/
def erase {α : Type} (t : TableOf α) (key : String) : TableOf α :=
  { t with entries := t.entries.filter (·.1.text != key) }

end TableOf

/-- The kind of a scalar. -/
def Scalar.kind : Scalar → String
  | string _ => "string"
  | integer _ => "integer"
  | float _ _ => "float"
  | notANumber => "float"
  | boolean _ => "boolean"
  | dateTime => "datetime"

namespace Item

/-- The kind of an item. -/
def kind : Item → String
  | scalar value _ => value.kind
  | array _ _ => "array"
  | table t => if t.form.inBraces then "inline table" else "table"
  | tables _ => "array of tables"

/-- The stretch of the text that an item was written at. -/
def span : Item → Option Span
  | scalar _ span => some span
  | array _ span => some span
  | table t => t.span
  | tables ts => do
    let first ← ts.head?
    let last ← ts.getLast?
    return ⟨(← first.span).start, (← last.span).stop⟩

end Item
end Toml
end StreamEditor
