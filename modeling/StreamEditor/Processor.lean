/-
# Processing a stream line by line

A processor applies one substitution to a stream. Each line is numbered, matched with its line
feed, and written, dropped or written twice; in a run restricted to a range the lines outside it
are dropped and the others are written behind their number and a tab. A run counts the lines it
read, the lines it wrote, and of these the ones in which the pattern matched.

A run stops at the first write that fails. When reading fails, what was written is flushed first,
and a failure of that is told in place of the failure to read.

Key definitions: `Processor`, `Processor.line`, `Processor.Progress`, `Processor.step`,
`Processor.run`, `Processor.Outcome`.
-/
import StreamEditor.EditError
import StreamEditor.Stream.Sink
import StreamEditor.Stream.Source
import StreamEditor.Substitution

namespace StreamEditor

/-- A substitution ready to run: whether a run is restricted to the range, and how many lines
the last run read. -/
structure Processor where
  substitution : Substitution
  onlyRange : Bool
  currentLine : Nat

/-- What a run counts. -/
structure Stats where
  read : Nat
  emitted : Nat
  changed : Nat
  deriving DecidableEq, Repr, Inhabited

/-- What becomes of a line. -/
inductive LineResult where
  | dropped
  /-- The line's text after the edit, whether the pattern matched, the number to write before
  it, and whether it is written twice. -/
  | kept (text : Bytes) (changed : Bool) (number : Option Nat) (twice : Bool)
  deriving DecidableEq, Repr

/-- A number in decimal, as bytes. -/
def decimalBytes (n : Nat) : Bytes :=
  bytesOf (toString n)

/-- The pieces in which a text is written: its line number and a tab, if it has one, and the
text itself. -/
def numbered (number : Option Nat) (text : Bytes) : List Bytes :=
  match number with
  | some n => [decimalBytes n, [9], text]
  | none => [text]

namespace LineResult

/-- The copies of a line to write, each in its pieces. -/
def copies : LineResult → List (List Bytes)
  | .dropped => []
  | .kept text _ number false => [numbered number text]
  | .kept text _ number true => [numbered number text, numbered number text]

/-- Whether a line is kept and the pattern matched in it. -/
def isChange : LineResult → Bool
  | .dropped => false
  | .kept _ changed _ _ => changed

end LineResult

namespace Substitution

/-- A line that is kept with its new text, or as it is if there is none. -/
def kept (line : Bytes) (number : Option Nat) (twice : Bool) (text? : Option Bytes) : LineResult :=
  .kept (text?.getD line) text?.isSome number (twice && text?.isSome)

/-- What a substitution makes of a line in scope, where `doubling` allows lines to be written
twice. -/
def edit (s : Substitution) (doubling : Bool) (number : Option Nat) (line : Bytes) : LineResult :=
  match s.semantics, s.flag with
  | .sed, .delete =>
    if s.pattern.isMatch line then .dropped else .kept line false number false
  | .sed, .print => kept line number doubling (s.pattern.replaceFirst? s.replacement line)
  | .sed, .none => kept line number false (s.pattern.replaceFirst? s.replacement line)
  | _, _ => kept line number false (s.pattern.replaceAll? s.replacement line)

end Substitution

namespace Processor

/-- The processor of a substitution, where `selecting` restricts runs to its range. -/
def ofSubstitution (s : Substitution) (selecting : Bool) : Processor :=
  ⟨s, selecting && s.range.isSome, 0⟩

/-- Whether a line is in scope. -/
def inScope (p : Processor) (i : Nat) : Bool :=
  !p.onlyRange || p.substitution.range.any (·.contains i)

/-- What becomes of line `i`. -/
def line (p : Processor) (i : Nat) (line : Bytes) : LineResult :=
  if p.inScope i then
    p.substitution.edit (!p.onlyRange) (if p.onlyRange then some i else none) line
  else .dropped

/-! ### Runs -/

/-- How far a run has come: the lines read, what was counted, the numbers of the lines dropped,
the latest first, and the sink. -/
structure Progress where
  line : Nat
  stats : Stats
  dropped : List Nat
  sink : Sink

/-- Writes copies of a line and counts them. -/
def write : List (List Bytes) → Progress → Option SystemError × Progress
  | [], s => (none, s)
  | copy :: copies, s =>
    match s.sink.writeEach copy with
    | (some cause, sink) => (some cause, { s with sink })
    | (none, sink) =>
      write copies { s with sink, stats := { s.stats with emitted := s.stats.emitted + 1 } }

/-- Reads one line and writes what becomes of it. -/
def step (p : Processor) (s : Progress) (line : Bytes) : Option SystemError × Progress :=
  let i := s.line + 1
  let result := p.line i line
  let stats :=
    { s.stats with
      read := s.stats.read + 1
      changed := s.stats.changed + (if result.isChange then 1 else 0) }
  let dropped := if result == .dropped then i :: s.dropped else s.dropped
  write result.copies { s with line := i, stats, dropped }

/-- Processes lines until a write fails. -/
def steps (p : Processor) : Progress → List Bytes → Option SystemError × Progress
  | s, [] => (none, s)
  | s, line :: lines =>
    match p.step s line with
    | (some cause, s) => (some cause, s)
    | (none, s) => steps p s lines

/-- How a run ended: how far it came, the error that ended the input if the run came to it, and
the error of the run. -/
structure Outcome where
  progress : Progress
  readError : Option SystemError
  error : Option EditError

namespace Outcome

/-- The result of the run: what it counted, or its error. -/
def result (o : Outcome) : Except EditError Stats :=
  match o.error with
  | some e => .error e
  | none => .ok o.progress.stats

/-- The bytes that were written. -/
def out (o : Outcome) : Bytes :=
  o.progress.sink.taken

end Outcome

/-- Runs over a source, writing to a sink. -/
def run (p : Processor) (source : Source) (sink : Sink) : Outcome :=
  match p.steps ⟨0, ⟨0, 0, 0⟩, [], sink⟩ source.lines with
  | (some cause, s) => ⟨s, none, some (.write cause)⟩
  | (none, s) =>
    let error :=
      match s.sink.flush, source.ending with
      | some cause, _ => some (.write cause)
      | none, some cause => some (.read s.line cause)
      | none, none => none
    ⟨s, source.ending, error⟩

/-- The processor after a run. -/
def after (p : Processor) (o : Outcome) : Processor :=
  { p with currentLine := o.progress.line }

@[simp]
theorem substitution_after (p : Processor) (o : Outcome) :
    (p.after o).substitution = p.substitution := rfl

@[simp]
theorem onlyRange_after (p : Processor) (o : Outcome) : (p.after o).onlyRange = p.onlyRange := rfl

@[simp]
theorem currentLine_after (p : Processor) (o : Outcome) :
    (p.after o).currentLine = o.progress.line := rfl

end Processor
end StreamEditor
