/-
# Filters of a log

A filter is a list of rules, parted by commas. A rule is a level, or the beginning of an origin with
a level behind an equals sign; without a level it lets everything through. In brackets it may name
a scope, and in braces there fields that an event has to have, perhaps with a value. No event lies
in a scope or is matched by a value, so such rules let nothing through. Of the rules that care about
an event the one that is most specific decides, and without one the event is not logged. A filter
that cannot be read is replaced by the common one.

Key definitions: `Log.Rule`, `Log.Filter`, `Filter.parse?`, `Filter.common`, `Filter.accepts`.
-/
import StreamEditor.Log.Event
import StreamEditor.Unicode.Property

namespace StreamEditor
namespace Log

/-- A rule of a filter: the beginning of the origins it is about, the fields that events have to
have, the greatest number of a level that it lets through, and whether it can be about events at
all. -/
structure Rule where
  origin : Option String
  fields : List String
  threshold : Nat
  aboutEvents : Bool
  deriving DecidableEq, Repr

/-- A list of rules, in the order they were written. -/
abbrev Filter := List Rule

namespace Rule

/-- The rule that says nothing yet. -/
def empty : Rule := ⟨none, [], 5, true⟩

/-! ### Reading rules -/

/-- The threshold that a text means: a number up to five, the word for a level, or `off`, in
letters of either case. No text means errors alone. -/
def threshold? (text : List Char) : Option Nat :=
  let digits := match text with
    | '+' :: cs => cs
    | cs => cs
  let words := [("error", 1), ("warn", 2), ("info", 3), ("debug", 4), ("trace", 5), ("off", 0)]
  if text.isEmpty then some 1
  else if !digits.isEmpty && digits.all Char.isDigit then
    let n := digits.foldl (fun n c => n * 10 + (c.toNat - '0'.toNat)) 0
    if n ≤ 5 then some n else none
  else words.lookup (String.ofList (text.map Char.toLower))

/-- Whether a rule may begin with a character. -/
def isOpening (c : Char) : Bool :=
  c == '-' || c == ':' || c == '_' ||
    (if c.toNat < 128 then c.isAlphanum
     else Unicode.Binary.alphabetic.mem c.toNat ||
       (CodeSet.unions (["Nd", "Nl", "No"].map Unicode.Category.members)).mem c.toNat)

/-- What is being read; the numbers are the places where it began. -/
inductive Stage where
  | opening
  | word (start : Nat)
  | scope (start : Nat)
  | field (start : Nat)
  | fieldsEnd
  | scopeEnd
  | level (start : Nat)
  deriving DecidableEq, Repr

/-- The rule with one more field. A value that the field has to have is a number or a pattern. -/
def addField (r : Rule) (text : List Char) : Option Rule :=
  match text, Fields.split '=' text with
  | [], _ => none
  | _, name :: value :: _ =>
    let readable := (Numeral.read value).toOption.isSome ||
      (Regex.compilePattern (String.ofList value) false).toOption.isSome
    if readable then
      some { r with fields := r.fields ++ [String.ofList name], aboutEvents := false }
    else none
  | _, _ => some { r with fields := r.fields ++ [String.ofList text] }

/-- Reads one character at place `i` of a rule with the text `text`. -/
def step (text : List Char) (r : Rule) (stage : Stage) (i : Nat) (c : Char) :
    Option (Rule × Stage) :=
  let since (start : Nat) : List Char := (text.take i).drop start
  match stage with
  | .opening =>
    if c == '[' then some (r, .scope (i + 1))
    else if isOpening c then some (r, .word i)
    else none
  | .word start =>
    if c == '=' then some ({ r with origin := some (String.ofList (since start)) }, .level (i + 1))
    else if c == '[' then
      some ({ r with origin := some (String.ofList (since start)) }, .scope (i + 1))
    else some (r, stage)
  | .scope start =>
    if c == ']' then some ({ r with aboutEvents := false }, .scopeEnd)
    else if c == '\x7b' then
      some ({ r with aboutEvents := r.aboutEvents && (since start).isEmpty }, .field (i + 1))
    else some (r, stage)
  | .field start =>
    if c == '\x7d' then (r.addField (since start)).map fun r => (r, .fieldsEnd)
    else some (r, stage)
  | .fieldsEnd => if c == ']' then some (r, .scopeEnd) else none
  | .scopeEnd => if c == '=' then some (r, .level (i + 1)) else none
  | .level _ => some (r, stage)

/-- Reads the characters of a rule from place `i` on. -/
def stepsFrom (text : List Char) : Nat → List Char → Rule → Stage → Option (Rule × Stage)
  | _, [], r, stage => some (r, stage)
  | i, c :: cs, r, stage => do
    let (r, stage) ← step text r stage i c
    stepsFrom text (i + 1) cs r stage

/-- The rule at the end of its text. -/
def close (text : List Char) (r : Rule) : Stage → Option Rule
  | .word start =>
    match threshold? (text.drop start) with
    | some threshold => some { r with threshold }
    | none => some { r with origin := some (String.ofList (text.drop start)) }
  | .level start =>
    if (text.drop start).isEmpty then some r
    else (threshold? (text.drop start)).map fun threshold => { r with threshold }
  | .scopeEnd => some r
  | _ => none

/-- Reads a rule. Blanks around it are passed over, but places are counted without those in front,
and count in the text with them. -/
def parse? (text : List Char) : Option Rule := do
  let blank (c : Char) : Bool := Regex.isBlank c
  let inner := ((text.dropWhile blank).reverse.dropWhile blank).reverse
  let (r, stage) ← stepsFrom text 0 inner .empty .opening
  close text r stage

/-! ### Applying rules -/

/-- Whether a rule cares about an event. -/
def caresAbout (r : Rule) (e : Event) : Bool :=
  r.aboutEvents && r.origin.all (fun o => o.toList.isPrefixOf e.origin.toList) &&
    r.fields.all fun f => f == "message" || e.fields.any (·.1 == f)

/-- How specific a rule is: first by the length of its origin, then by the number of its fields. -/
def weight (r : Rule) : Nat × Nat :=
  (match r.origin with
    | some o => o.utf8ByteSize + 1
    | none => 0,
   r.fields.length)

/-- Whether a rule decides where another one would. Of two that are as specific the one with the
greater fields does, and of two that are alike the later one. -/
def outweighs (later earlier : Rule) : Bool :=
  let (a, b) := (later.weight, earlier.weight)
  decide (b.1 < a.1) || (a.1 == b.1 &&
    (decide (b.2 < a.2) || (a.2 == b.2 && !decide (later.fields < earlier.fields))))

end Rule

namespace Filter

/-- The filter that is used unless another one is given: everything but traces. -/
def common : Filter := [⟨some "ccsed", [], 4, true⟩]

/-- Reads a filter. -/
def parse? (text : String) : Option Filter :=
  ((Fields.split ',' text.toList).filter (! ·.isEmpty)).mapM Rule.parse?

/-- The filter of a text, if there is one that can be read, else the common one. -/
def ofText (text : Option String) : Filter :=
  (text.bind parse?).getD common

/-- The rule that decides about an event. -/
def decider (f : Filter) (e : Event) : Option Rule :=
  (f.filter (·.caresAbout e)).foldl
    (fun best r =>
      match best with
      | some b => if r.outweighs b then some r else some b
      | none => some r)
    none

/-- Whether an event is logged. -/
def accepts (f : Filter) (e : Event) : Bool :=
  match f.decider e with
  | some r => decide (e.level.number ≤ r.threshold)
  | none => false

end Filter
end Log
end StreamEditor
