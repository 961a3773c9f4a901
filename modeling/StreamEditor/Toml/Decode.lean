/-
# Reading settings out of items

A setting is a boolean, one word of a few, or a record of named settings. A record may be written
as a table, where other keys are passed over, or as an array of its settings in order; all settings
may be left out. A word may also be the only key of a table, with nothing behind it. A date stands
for a record without settings.

Key definitions: `Toml.Misfit`, `Toml.Mismatch`, `Item.boolean`, `Item.choice`, `Item.members`.
-/
import StreamEditor.Toml.Item

namespace StreamEditor
namespace Toml

/-- Why an item is no setting of a kind. -/
inductive Misfit where
  | wrongType (found expected : String)
  | unknownWord (word : String) (words : List String)
  | noEntry
  | manyEntries
  | notWordOrTable
  | notTable (kind : String)
  | notEmptyTable
  | notEmptyArray
  deriving DecidableEq, Repr

/-- Words to choose from, told one by one. -/
def listed : List String → String
  | [] => "there are no variants"
  | [word] => "expected `" ++ word ++ "`"
  | [first, second] => "expected `" ++ first ++ "` or `" ++ second ++ "`"
  | words => "expected one of " ++ ", ".intercalate (words.map fun word => "`" ++ word ++ "`")

/-- A misfit in words. -/
def Misfit.what : Misfit → String
  | wrongType found expected => "invalid type: " ++ found ++ ", expected " ++ expected
  | unknownWord word words => "unknown variant `" ++ word ++ "`, " ++ listed words
  | noEntry => "wanted exactly 1 element, found 0 elements"
  | manyEntries => "wanted exactly 1 element, more than 1 element"
  | notWordOrTable => "wanted string or table"
  | notTable kind => "expected table, found " ++ kind
  | notEmptyTable => "expected empty table"
  | notEmptyArray => "expected empty array"

/-- A misfit with the stretch of the text that it is about. -/
structure Mismatch where
  misfit : Misfit
  span : Option Span
  deriving DecidableEq, Repr

namespace Mismatch

/-- A mismatch with a stretch to fall back on. -/
def orAt (span : Option Span) (m : Mismatch) : Mismatch :=
  { m with span := m.span <|> span }

/-- A mismatch as a report. -/
def report (m : Mismatch) : Report := ⟨m.misfit.what, m.span⟩

end Mismatch

/-- A floating-point number in words. -/
def floatText (negative : Bool) (magnitude : Binary64) : String :=
  (if negative then "-" else "") ++ magnitude.text

/-- A scalar as it is told where it does not fit. -/
def Scalar.found : Scalar → String
  | string text => "string " ++ Quoted.text text
  | integer n => "integer `" ++ toString n ++ "`"
  | float negative magnitude => "floating point `" ++ floatText negative magnitude ++ "`"
  | notANumber => "floating point `NaN`"
  | boolean b => "boolean `" ++ (if b then "true" else "false") ++ "`"
  | dateTime => "map"

namespace Item

/-- An item as it is told where it does not fit. -/
def found : Item → String
  | scalar value _ => value.found
  | array _ _ => "sequence"
  | table _ => "map"
  | tables _ => "sequence"

/-- The item as a boolean. -/
def boolean : Item → Except Mismatch Bool
  | scalar (.boolean b) _ => .ok b
  | item => .error ⟨.wrongType item.found "a boolean", item.span⟩

/-- The value of a word among some. -/
def ofWord {α : Type} (words : List (String × α)) (word : String) (span : Option Span) :
    Except Mismatch α :=
  match words.lookup word with
  | some a => .ok a
  | none => .error ⟨.unknownWord word (words.map (·.1)), span⟩

/-- Whether an item says nothing, which is all that may stand behind a word. -/
def checkEmpty : Item → Except Mismatch Unit
  | table t => if t.entries.isEmpty then .ok () else .error ⟨.notEmptyTable, t.span⟩
  | array items span => if items.isEmpty then .ok () else .error ⟨.notEmptyTable, some span⟩
  | tables ts => if ts.isEmpty then .ok () else .error ⟨.notEmptyArray, (tables ts).span⟩
  | item => .error ⟨.notTable item.kind, item.span⟩

/-- The item as the value of one of some words. -/
def choice {α : Type} (words : List (String × α)) : Item → Except Mismatch α
  | scalar (.string word) span => ofWord words word (some span)
  | table t =>
    match t.entries with
    | [] => .error ⟨.noEntry, t.span⟩
    | [(key, item)] => do
      let a ← ofWord words key.text (some key.span)
      (checkEmpty item).mapError (·.orAt t.span)
      .ok a
    | _ => .error ⟨.manyEntries, t.span⟩
  | item => .error ⟨.notWordOrTable, item.span⟩

/-- A setting in a record: its name, its item, and the stretch to tell if the item has none. -/
structure Member where
  name : String
  item : Item
  fallback : Option Span

/-- The settings of an item that is a record with the given names. -/
def members (record : String) (names : List String) : Item → Except Mismatch (List Member)
  | table t => .ok (t.entries.map fun (key, item) => ⟨key.text, item, some key.span⟩)
  | array items _ => .ok ((names.zip items).map fun (name, item) => ⟨name, item, none⟩)
  | tables ts => .ok ((names.zip ts).map fun (name, t) => ⟨name, table t, none⟩)
  | scalar .dateTime _ => .ok []
  | item => .error ⟨.wrongType item.found ("struct " ++ record), item.span⟩

/-- Takes over the settings of a record one after the other; `set` knows the names. -/
def readRecord {α : Type} (record : String) (names : List String)
    (set : String → Item → α → Except Mismatch α) (default : α) (item : Item) :
    Except Mismatch α := do
  (← item.members record names).foldlM
    (fun a m => (set m.name m.item a).mapError (·.orAt m.fallback)) default

end Item
end Toml
end StreamEditor
