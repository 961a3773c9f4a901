/-
# Events that a log tells

What the program logs while it runs. An event has a level, the part of the program that it comes
from, and a text: a message, and fields with their values. Texts that a user gave stand between
quotes, except the directive as a whole, paths and the words of errors.

Key definitions: `Log.Level`, `Log.Event`, `Event.level`, `Event.origin`, `Event.fields`,
`Event.line`.
-/
import StreamEditor.Directive
import StreamEditor.Files.Path
import StreamEditor.Processor

namespace StreamEditor
namespace Log

/-- How much an event matters; the later ones matter less. -/
inductive Level where
  | error
  | warn
  | info
  | debug
  | trace
  deriving DecidableEq, Repr

namespace Level

/-- The number of a level; a threshold lets through the levels up to its own number. -/
def number : Level → Nat
  | error => 1
  | warn => 2
  | info => 3
  | debug => 4
  | trace => 5

/-- The word for a level. -/
def word : Level → String
  | error => "error"
  | warn => "warn"
  | info => "info"
  | debug => "debug"
  | trace => "trace"

/-- A level as it stands in a log, all of one width. -/
def label : Level → String
  | error => "ERROR"
  | warn => " WARN"
  | info => " INFO"
  | debug => "DEBUG"
  | trace => "TRACE"

end Level

/-- What the program logs. -/
inductive Event where
  | opened (log : Path)
  | shorthand
  | substitution (command pattern flag : String)
  | range (r : LineRange)
  | executing (directive : String) (file : Option Path) (inPlace : Bool)
  | started (onlyRange : Bool) (flag : SubstitutionFlag) (semantics : FlagSemantics)
  | dropped (line : Nat)
  | readFailed (line : Nat) (cause : SystemError)
  | finished (stats : Stats)
  | rewrote (file : Path)
  | completed (stats : Stats)
  deriving DecidableEq, Repr

namespace Event

/-- The level of an event. -/
def level : Event → Level
  | opened _ => .info
  | executing _ _ _ => .info
  | completed _ => .info
  | dropped _ => .trace
  | readFailed _ _ => .error
  | _ => .debug

/-- The part of the program that an event comes from. -/
def origin : Event → String
  | shorthand => "ccsed::parser"
  | substitution _ _ _ => "ccsed::parser"
  | range _ => "ccsed::parser"
  | started _ _ _ => "ccsed::processor"
  | dropped _ => "ccsed::processor"
  | readFailed _ _ => "ccsed::processor"
  | finished _ => "ccsed::processor"
  | rewrote _ => "ccsed::in_place"
  | _ => "ccsed"

/-- The message of an event. -/
def message : Event → String
  | opened _ => "debug logging enabled"
  | shorthand => "expanding G shorthand to double-spacing substitution"
  | substitution _ _ _ => "parsed substitution directive"
  | range _ => "parsed range expression, using pass-through substitution"
  | executing _ _ _ => "executing directive"
  | started _ _ _ => "starting line processor"
  | dropped _ => "line not emitted"
  | readFailed _ _ => "failed to read input"
  | finished _ => "line processor finished"
  | rewrote _ => "rewrote file in place"
  | completed _ => "run complete"

/-- A truth value in words. -/
def truth (b : Bool) : String := if b then "true" else "false"

/-- A path that may be missing, in words. -/
def optionalPath : Option Path → String
  | some p => "Some(" ++ Quoted.path p ++ ")"
  | none => "None"

/-- What a run counted, as fields. -/
def counts (s : Stats) : List (String × String) :=
  [("lines_read", toString s.read), ("lines_emitted", toString s.emitted),
    ("lines_changed", toString s.changed)]

/-- The fields of an event with their values. -/
def fields : Event → List (String × String)
  | opened log => [("log", Path.text log)]
  | shorthand => []
  | substitution command pattern flag =>
    [("command", Quoted.text command), ("pattern", Quoted.text pattern), ("flag", Quoted.text flag)]
  | range r => [("range", r.text)]
  | executing directive file inPlace =>
    [("directive", directive), ("file", optionalPath file), ("in_place", truth inPlace)]
  | started onlyRange flag semantics =>
    [("only_range", truth onlyRange), ("flag", flag.name), ("semantics", semantics.name)]
  | dropped line => [("line", toString line)]
  | readFailed line cause => [("line", toString line), ("error", cause.message)]
  | finished stats => counts stats
  | rewrote file => [("path", Path.text file)]
  | completed stats => counts stats

/-- An event as a line of a log, without the time. -/
def line (e : Event) : String :=
  " ".intercalate
    (e.level.label :: e.message :: e.fields.map fun (name, value) => name ++ "=" ++ value)

end Event

/-! ### The events of what the program does -/

/-- The events of reading a directive. -/
def ofDirective (selecting : Bool) (raw : String) : List Event :=
  (if raw == "G" then [.shorthand] else []) ++
    match Directive.classify selecting (Directive.expand raw) with
    | .error _ => []
    | .ok (.substitution parts) => [.substitution parts.command parts.pattern parts.flag]
    | .ok (.range r) => [.range r]

/-- The event before a run of a processor. -/
def started (p : Processor) : Event :=
  .started p.onlyRange p.substitution.flag p.substitution.semantics

/-- The events of a run of a processor, once it has started. -/
def ofRun (o : Processor.Outcome) : List Event :=
  o.progress.dropped.reverse.map Event.dropped ++
    match o.readError, o.error with
    | some cause, _ => [.readFailed o.progress.line cause]
    | none, some _ => []
    | none, none => [.finished o.progress.stats]

end Log
end StreamEditor
