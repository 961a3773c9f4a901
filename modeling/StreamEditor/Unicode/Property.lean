/-
# Looking up the properties of Unicode by name

A name is compared in normal form: letters of either case are equal, blanks, hyphens and
underscores do not count, and neither does a leading `is`. A name alone means a binary property,
a general category or a script, in this order; a name with a value means the part of that
property. The module also holds the three classes every pattern language has: words, digits
and blanks.

Key definitions: `Property.normalName`, `Property.ofName`, `Property.ofValue`, `Property.word`.
-/
import StreamEditor.Unicode.Age
import StreamEditor.Unicode.Binary
import StreamEditor.Unicode.Category
import StreamEditor.Unicode.Script
import StreamEditor.Unicode.Segmentation

namespace StreamEditor
namespace Unicode

/-- Why a name leads to no set. -/
inductive PropertyError where
  | noProperty
  | noValue
  deriving DecidableEq, Repr

namespace Property

/-- The codes of decimal digits. -/
def digit : CodeSet := Category.members "Nd"

/-- The codes of blanks. -/
def space : CodeSet := Binary.whiteSpace

/-- The codes that words are made of: letters, marks, decimal digits, connecting punctuation and
the two joiners. -/
def word : CodeSet :=
  CodeSet.unions
    [Binary.alphabetic, Category.members "M", digit, Category.members "Pc", Binary.joinControl]

/-- The codes of numbers. -/
def numeric : CodeSet := Category.members "N"

/-- The letters and digits of a name in lower case. -/
def squeezed (cs : List Char) : List Char :=
  (cs.filter fun c => decide (c.toNat < 128) && c != ' ' && c != '_' && c != '-').map Char.toLower

/-- The normal form of a name. The `c` of `isc` stays whole, since it is short for another name
than `c` alone. -/
def normalName (name : String) : String :=
  match name.toList with
  | a :: b :: rest =>
    if a.toLower == 'i' && b.toLower == 's' then
      let short := squeezed rest
      if short == ['c'] then "isc" else String.ofList short
    else String.ofList (squeezed (a :: b :: rest))
  | cs => String.ofList (squeezed cs)

/-- The properties that take a value, under the names they go by in normal form. -/
inductive Valued where
  | category
  | script
  | scriptExtensions
  | age
  | graphemeBreak
  | wordBreak
  | sentenceBreak
  deriving DecidableEq, Repr

/-- The property with values behind a name in normal form. -/
def Valued.named : String → Option Valued
  | "gc" | "generalcategory" => some .category
  | "sc" | "script" => some .script
  | "scx" | "scriptextensions" => some .scriptExtensions
  | "age" => some .age
  | "gcb" | "graphemeclusterbreak" => some .graphemeBreak
  | "wb" | "wordbreak" => some .wordBreak
  | "sb" | "sentencebreak" => some .sentenceBreak
  | _ => none

/-- The set of a general category, where surrogates are no characters and have none. -/
def categoryNamed (name : String) : Option (Option CodeSet) :=
  match name with
  | "any" => some (some ⟨[⟨0, 0x10FFFF⟩]⟩)
  | "ascii" => some (some ⟨[⟨0, 0x7F⟩]⟩)
  | "assigned" => some (some ((Category.members "Cn").compl 0x10FFFF))
  | _ => (Category.named name).map fun short =>
    if short == "Cs" then none else some (Category.members short)

/-- A set with members, since a name of no character counts as unknown. -/
def inhabited (s : CodeSet) : Option CodeSet :=
  if s.intervals.isEmpty then none else some s

/-- A found name whose set may be missing. -/
def orNoValue : Option CodeSet → Except PropertyError CodeSet
  | some s => .ok s
  | none => .error .noValue

/-- Whether a property goes by this name in normal form. -/
def isProperty (name : String) : Bool :=
  (Binary.named name).isSome || (Valued.named name).isSome || Binary.withoutSet.contains name

/-- The set that a name alone stands for. Three short names are also short for properties of
other kinds, and mean the category here. -/
def ofName (name : String) : Except PropertyError CodeSet :=
  let norm := normalName name
  let meansCategory := norm == "cf" || norm == "sc" || norm == "lc"
  if !meansCategory && isProperty norm then
    match Binary.named norm with
    | some s => .ok s
    | none => .error .noProperty
  else
    match categoryNamed norm with
    | some found => orNoValue found
    | none =>
      match Script.named norm with
      | some script => orNoValue (inhabited (Script.members script))
      | none => .error .noProperty

/-- The part of a partition behind one of the joined names. -/
def partNamed (names : List (List String)) (p : Partition) (value : String) :
    Except PropertyError CodeSet :=
  match names.find? fun entry => entry.tail.contains value with
  | some (part :: _) => orNoValue (inhabited (p.members part))
  | _ => .error .noValue

/-- The set that a name with a value stands for. -/
def ofValue (name value : String) : Except PropertyError CodeSet :=
  let norm := normalName name
  let value := normalName value
  match Valued.named norm with
  | some .category =>
    match categoryNamed value with
    | some found => orNoValue found
    | none => .error .noValue
  | some .script =>
    orNoValue ((Script.named value).bind fun script => inhabited (Script.members script))
  | some .scriptExtensions =>
    orNoValue ((Script.named value).bind fun script => inhabited (Script.extended script))
  | some .age => orNoValue ((Age.named value).map Age.upTo)
  | some .graphemeBreak => partNamed Segmentation.graphemeNames Segmentation.grapheme value
  | some .wordBreak => partNamed Segmentation.wordNames Segmentation.word value
  | some .sentenceBreak => partNamed Segmentation.sentenceNames Segmentation.sentence value
  | none => if isProperty norm then .error .noValue else .error .noProperty

end Property
end Unicode
end StreamEditor
