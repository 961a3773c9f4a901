/-
# The switches of the command line

A switch is written with two hyphens and its name, and some also with one hyphen and a letter. Two
of them take a value. One has a second name, which the help does not tell.

Key definitions: `Switch`, `Switch.name`, `Switch.ofName?`, `Switch.ofLetter?`, `Switch.shown`.
-/
namespace StreamEditor

/-- The switches. -/
inductive Switch where
  | quiet
  | inPlace
  | config
  | debug
  | semantics
  | help
  | version
  deriving DecidableEq, Repr

namespace Switch

/-- The name of a switch. -/
def name : Switch → String
  | quiet => "quiet"
  | inPlace => "in-place"
  | config => "config"
  | debug => "debug"
  | semantics => "flag-semantics"
  | help => "help"
  | version => "version"

/-- The names that switches can be written with. -/
def names : List (String × Switch) :=
  [("quiet", quiet), ("silent", quiet), ("in-place", inPlace), ("config", config),
    ("debug", debug), ("flag-semantics", semantics), ("help", help), ("version", version)]

/-- The switch with a name. -/
def ofName? (name : String) : Option Switch := names.lookup name

/-- The switch with a letter. -/
def ofLetter? : Char → Option Switch
  | 'n' => some quiet
  | 'i' => some inPlace
  | 'h' => some help
  | 'V' => some version
  | _ => none

/-- What the value of a switch is called, if it takes one. -/
def valueName? : Switch → Option String
  | config => some "PATH"
  | semantics => some "MODE"
  | _ => none

/-- Whether a switch asks for a text to be shown and for nothing else. -/
def isNotice : Switch → Bool
  | help => true
  | version => true
  | _ => false

/-- A switch as it is shown, with its value. -/
def shown (s : Switch) : String :=
  "--" ++ s.name ++
    match s.valueName? with
    | some value => " <" ++ value ++ ">"
    | none => ""

end Switch
end StreamEditor
