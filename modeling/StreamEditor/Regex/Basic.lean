/-
# Regular expressions

A regular expression is a pattern compiled into a program. Matches are found from left to right
without overlap: the search for the next match begins where the last one stopped, and an empty
match is passed over if it stands right at that place. Text between the matches is kept and
each match is replaced by the template filled in for it.

Key definitions: `Regex`, `Regex.compile`, `Regex.isMatch`, `Regex.nextMatch?`,
`Regex.replaceAll?`, `Regex.replaceFirst?`.
-/
import StreamEditor.Regex.Expr.OfTree
import StreamEditor.Regex.Template
import StreamEditor.Regex.Tree.Parser

namespace StreamEditor

/-- A pattern that was compiled, with the case setting it was compiled for, its program, and the
names of its groups. -/
structure Regex where
  pattern : String
  ignoreCase : Bool
  program : Regex.Program
  names : List (String × Nat)
  deriving Inhabited

namespace Regex

/-- The size in bytes that a compiled pattern may have. -/
def sizeLimit : Nat := 10 * 1024 * 1024

/-- Why a pattern does not compile. -/
inductive CompileError where
  | malformed (e : SyntaxError)
  | tooBig
  deriving DecidableEq, Repr

/-- The expression of a pattern and the names of its groups. -/
def analyse (pattern : List Char) (ignoreCase : Bool) :
    Except SyntaxError (Expr × List (String × Nat)) := do
  let tree ← Tree.parse pattern
  let (e, _) ← tree.meaning (Flags.initial ignoreCase)
  .ok (e, tree.groupNames)

/-- Compiles a pattern. -/
def compile (pattern : String) (ignoreCase : Bool) : Except CompileError Regex :=
  match analyse pattern.toList ignoreCase with
  | .error e => .error (.malformed e)
  | .ok (e, names) =>
    if e.weight ≤ sizeLimit then .ok ⟨pattern, ignoreCase, Program.ofExpr e, names⟩
    else .error .tooBig

/-- Whether the pattern matches anywhere in a text. -/
def isMatch (r : Regex) (text : Bytes) : Bool :=
  (r.program.search (Place.start text)).isSome

/-- The next match from a place on, where `last` is the end of the match before it. -/
def nextMatch? (r : Regex) (p : Place) (last : Option Nat) : Option Match :=
  match r.program.search p with
  | none => none
  | some m =>
    if m.isEmpty && last == some m.stop.index then
      match p.advance? with
      | none => none
      | some (_, q) => r.program.search q
    else some m

/-- The text from a place on with the next `n` matches replaced. -/
def replaceFrom (r : Regex) (template : List Template.Piece) : Nat → Place → Option Nat → Bytes
  | 0, p, _ => p.after
  | n + 1, p, last =>
    match r.nextMatch? p last with
    | none => p.after
    | some m =>
      p.after.take (m.start.index - p.index) ++
        (Template.expand r.names template m ++
          replaceFrom r template n m.stop (some m.stop.index))

/-- The text with its first `n` matches replaced, or `none` if there is no match. -/
def replace? (r : Regex) (template : String) (n : Nat) (text : Bytes) : Option Bytes :=
  if r.isMatch text then
    some (r.replaceFrom (Template.parse template) n (Place.start text) none)
  else none

/-- The text with its first match replaced. -/
def replaceFirst? (r : Regex) (template : String) (text : Bytes) : Option Bytes :=
  r.replace? template 1 text

/-- The text with all matches replaced: the ends of two matches differ, so there are no more
matches than places. -/
def replaceAll? (r : Regex) (template : String) (text : Bytes) : Option Bytes :=
  r.replace? template (text.length + 1) text

end Regex
end StreamEditor
