/-
# Substitutions

A substitution says which pattern to look for in a line and what to put in its place. Its flag
can change how often the pattern is replaced, whether a line is dropped or printed twice, and
whether case counts, if flags are executed at all: under the reference semantics they are kept
and have no effect.

Key definitions: `SubstitutionFlag`, `FlagSemantics`, `Substitution`, `Substitution.sameAs`.
-/
import StreamEditor.LineRange
import StreamEditor.Regex.Basic

namespace StreamEditor

/-- The flag of a substitution. -/
inductive SubstitutionFlag where
  | none
  | global
  | globalIgnoreCase
  | delete
  | print
  deriving DecidableEq, Repr, Inhabited

namespace SubstitutionFlag

/-- The flag behind a token; any token that is none of the four means no flag. -/
def ofToken (token : String) : SubstitutionFlag :=
  match token with
  | "g" => .global
  | "gi" => .globalIgnoreCase
  | "d" => .delete
  | "p" => .print
  | _ => .none

/-- The token of a flag. -/
def token : SubstitutionFlag → String
  | .none => ""
  | .global => "g"
  | .globalIgnoreCase => "gi"
  | .delete => "d"
  | .print => "p"

/-- The name of a flag. -/
def name : SubstitutionFlag → String
  | .none => "NoFlag"
  | .global => "Global"
  | .globalIgnoreCase => "GlobalCaseInsensitive"
  | .delete => "Delete"
  | .print => "Print"

end SubstitutionFlag

/-- Whether flags are executed. -/
inductive FlagSemantics where
  /-- Flags are kept and have no effect: all matches are replaced, and case counts. -/
  | reference
  /-- Flags are executed. -/
  | sed
  deriving DecidableEq, Repr, Inhabited

namespace FlagSemantics

/-- The word for a semantics, as it is written on the command line and in configurations. -/
def word : FlagSemantics → String
  | .reference => "reference"
  | .sed => "sed"

/-- The semantics behind its word. -/
def ofWord? (w : String) : Option FlagSemantics :=
  match w with
  | "reference" => some .reference
  | "sed" => some .sed
  | _ => none

/-- The name of a semantics. -/
def name : FlagSemantics → String
  | .reference => "Reference"
  | .sed => "Sed"

/-- Whether a pattern under the flag ignores case. -/
def ignoresCase (s : FlagSemantics) (flag : SubstitutionFlag) : Bool :=
  s == .sed && flag == .globalIgnoreCase

end FlagSemantics

/-- A substitution. `command` is the verb it was written with, and `flagToken` its flag as it was
written; a range restricts it to some lines when only selected lines are printed. -/
structure Substitution where
  command : String
  pattern : Regex
  replacement : String
  flag : SubstitutionFlag
  flagToken : String
  range : Option LineRange
  semantics : FlagSemantics

namespace Substitution

/-- Whether two substitutions agree in all they were written with; patterns are compared by
their text. -/
def sameAs (s t : Substitution) : Bool :=
  s.command == t.command && s.pattern.pattern == t.pattern.pattern &&
    s.replacement == t.replacement && s.flag == t.flag && s.flagToken == t.flagToken &&
    s.range == t.range && s.semantics == t.semantics

end Substitution
end StreamEditor
