/-
# Rewriting a file in place

An edit reads its input bit by bit and writes in between; its value, or its error, comes last.
Rewriting a file hands its content to an edit, and what the edit writes goes to a file aside, in the
directory of the file. Only when the edit has succeeded is that given the permission bits of the
file and moved over it. If anything fails once the file aside is made, it is removed.

Key definitions: `Edit`, `Edit.toPlan`, `Edit.ofBytes`, `Processor.toEdit`, `Rewrite.directory`,
`Rewrite.publish`, `Rewrite.plan`, `Tree.rewrite`.
-/
import StreamEditor.Processor
import StreamEditor.World

namespace StreamEditor

/-- What an edit does: it reads on in its input, writes to its output, writes a line to the log, or
ends with its value or its error. -/
inductive Edit (α : Type) where
  | done (result : Except EditError α)
  /-- Reads at most so many bytes, or all that are left. -/
  | read (most : Option Nat) (next : Except SystemError Bytes → Edit α)
  | write (data : Bytes) (next : Edit α)
  | log (line : String) (next : Edit α)

namespace Edit

/-- What an edit does where its input is the file open for reading, and its output the file made
aside. -/
def toPlan {α : Type} : Edit α → Plan (Except EditError α)
  | done result => .done result
  | read most next => .read most fun answer => (next answer).toPlan
  | write data next => .write data next.toPlan
  | log line next => .log line next.toPlan

/-- Writes lines to the log, and goes on. -/
def logAll {α : Type} (lines : List String) (next : Edit α) : Edit α :=
  lines.foldr log next

/-- The edit that reads nothing and writes some bytes, with their number as its value, or fails
after that. -/
def ofBytes (bytes : Bytes) (failure : Option EditError) : Edit Nat :=
  .write bytes (.done
    (match failure with
      | some e => .error e
      | none => .ok bytes.length))

end Edit

/-- The source that gives what reading all of a file gives. -/
def Source.ofContent : Except SystemError Bytes → Source
  | .ok data => Source.ofBytes data
  | .error cause => [.error cause]

/-- The edit of a processor: its run over its input, with what it counts as the value. `before` and
`after` are the lines for the log. -/
def Processor.toEdit (p : Processor) (before : List String := [])
    (after : Processor.Outcome → List String := fun _ => []) : Edit Stats :=
  .logAll before (.read none fun content =>
    let o := p.run (Source.ofContent content) Sink.unlimited
    .logAll (after o) (.write o.out (.done o.result)))

namespace Rewrite

/-- The path of the directory that a file aside is made in. -/
def directory (p : Path) : Path :=
  if (Path.parent p).isEmpty || (Path.namesFrom [] p).isEmpty then Path.dot else Path.parent p

/-- The error for a step that was refused. -/
def refused (p : Path) (step : String) (cause : SystemError) : EditError :=
  .inPlace p (step ++ ": " ++ cause.message)

/-- Does what a plan says, and removes the file aside if that fails. -/
def guarded {α : Type} (plan : Plan (Except EditError α)) : Plan (Except EditError α) := do
  match ← plan with
  | .error e => .removeAside (.done (.error e))
  | .ok value => return .ok value

/-- Puts the file aside in place of what a path names last. What stands at the path itself is
replaced, also if it is a link. -/
def publish {α : Type} (p : Path) (mode : Nat) (value : α) : Plan (Except EditError α) :=
  .flush fun
    | .error cause => .done (.error (.write cause))
    | .ok _ =>
      .setMode mode fun
        | .error cause => .done (.error (refused p "cannot copy permissions" cause))
        | .ok _ =>
          .rename p fun
            | .error cause => .done (.error (refused p "cannot replace file" cause))
            | .ok _ => .done (.ok value)

/-- Carries out an edit into the file aside, and puts that in place if the edit succeeds. -/
def edited {α : Type} (p : Path) (mode : Nat) (edit : Edit α) : Plan (Except EditError α) := do
  match ← edit.toPlan with
  | .error e => return .error e
  | .ok value => publish p mode value

/-- Rewrites the file that a path leads to. -/
def plan {α : Type} (p : Path) (edit : Edit α) : Plan (Except EditError α) :=
  .openFile p fun
    | .error cause => .done (.error (.fileOpen p cause))
    | .ok _ =>
      .fileMode fun
        | .error cause => .done (.error (refused p "cannot read metadata" cause))
        | .ok mode =>
          .makeAside (directory p) fun
            | .error cause =>
              let step := "cannot create temp file in " ++ Path.text (directory p)
              .done (.error (refused p step cause))
            | .ok _ => guarded (edited p mode edit)

end Rewrite

/-- Rewrites the file that a path leads to: the edit's value or the error, and the files after
it. -/
def Tree.rewrite {α : Type} (t : Tree) (p : Path) (edit : Edit α) (system : System := .willing) :
    Except EditError α × Tree :=
  let (result, w) := World.run (Rewrite.plan p edit) (.ofTree t system)
  (result, w.tree)

end StreamEditor
