/-
# Directives

A directive is a substitution `COMMAND/PATTERN/REPLACEMENT/FLAG` of exactly four fields, or,
when only selected lines are to be printed, a range of lines. The letter `G` is short for the
substitution that doubles line feeds. A range stands for a substitution that changes nothing,
restricted to its lines.

Key definitions: `Directive.expand`, `Directive.Shape`, `Directive.classify`, `Directive.parse`.
-/
import StreamEditor.EditError
import StreamEditor.Substitution

namespace StreamEditor
namespace Directive

/-- The directive that `G` is short for: every line feed becomes two. -/
def doubleSpace : String := "s/\n/\n\n/g"

/-- A directive with the short form written out. -/
def expand (raw : String) : String :=
  if raw == "G" then doubleSpace else raw

/-- The four fields of a substitution. -/
structure Parts where
  command : String
  pattern : String
  replacement : String
  flag : String
  deriving DecidableEq, Repr

/-- The fields that a range stands for: empty text is replaced by empty text. -/
def passThrough : Parts := ⟨"s", "", "", "g"⟩

/-- What a directive is. -/
inductive Shape where
  | substitution (parts : Parts)
  | range (range : LineRange)
  deriving DecidableEq, Repr

/-- The fields of a directive if it has four, else how many it has. -/
def parts (raw : String) : Except Nat Parts :=
  match Fields.split '/' raw.toList with
  | [command, pattern, replacement, flag] =>
    .ok ⟨String.ofList command, String.ofList pattern, String.ofList replacement,
      String.ofList flag⟩
  | fields => .error fields.length

/-- Tells what a directive is; `selecting` allows ranges. -/
def classify (selecting : Bool) (raw : String) : Except DirectiveError Shape :=
  match parts raw with
  | .ok parts => .ok (.substitution parts)
  | .error found =>
    if selecting then
      match LineRange.parse raw with
      | .ok range => .ok (.range range)
      | .error reason => .error (.range raw reason)
    else .error (.fieldCount raw found)

/-- The substitution with given fields. -/
def build (semantics : FlagSemantics) (parts : Parts) (range : Option LineRange) :
    Except EditError Substitution :=
  let flag := SubstitutionFlag.ofToken parts.flag
  match Regex.compilePattern parts.pattern (semantics.ignoresCase flag) with
  | .error e => .error (.pattern e)
  | .ok pattern =>
    .ok
      { command := parts.command, pattern, replacement := parts.replacement, flag
        flagToken := parts.flag, range, semantics }

/-- The substitution that a directive means. -/
def parse (selecting : Bool) (semantics : FlagSemantics) (raw : String) :
    Except EditError Substitution :=
  match classify selecting (expand raw) with
  | .error e => .error (.directive e)
  | .ok (.substitution parts) => build semantics parts none
  | .ok (.range range) =>
    match build semantics passThrough (some range) with
    | .error e => .error e
    | .ok s => .ok { s with flag := .print }

end Directive
end StreamEditor
