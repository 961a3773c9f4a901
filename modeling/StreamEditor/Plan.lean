/-
# Plans

What the program does to its surroundings, as data: a plan is a step with what follows on each
answer to it, or an end with a value. A plan says in which order files are opened, read, made,
moved and logged to, input is read and output written; a world, or a system, carries it out. One
file at a time is open for reading, and one at a time is made aside.

Key definitions: `Plan`, `Plan.bind`.
-/
import StreamEditor.Files.Aside

namespace StreamEditor

/-- A plan that ends with a value. -/
inductive Plan (α : Type) where
  | done (a : α)
  /-- Asks whether a path leads to anything. -/
  | look (p : Path) (next : Bool → Plan α)
  /-- Opens a file, to read it from its beginning. -/
  | openFile (p : Path) (next : Except SystemError Unit → Plan α)
  /-- Asks for the permission bits of the file that is open for reading. -/
  | fileMode (next : Except SystemError Nat → Plan α)
  /-- Reads on in the file that is open for reading: at most so many bytes, or all that are left. -/
  | read (most : Option Nat) (next : Except SystemError Bytes → Plan α)
  /-- Makes an empty file aside, in a directory. -/
  | makeAside (directory : Path) (next : Except SystemError Unit → Plan α)
  /-- Writes to the file made aside. -/
  | write (data : Bytes) (next : Plan α)
  /-- Brings all that was written to the file made aside. -/
  | flush (next : Except SystemError Unit → Plan α)
  /-- Sets the permission bits of the file made aside. -/
  | setMode (mode : Nat) (next : Except SystemError Unit → Plan α)
  /-- Moves the file made aside over what a path names last. -/
  | rename (p : Path) (next : Except SystemError Unit → Plan α)
  /-- Removes the file made aside. -/
  | removeAside (next : Plan α)
  /-- Makes a directory and those that are to hold it. -/
  | makeDirectories (p : Path) (next : Except SystemError Unit → Plan α)
  /-- Opens the log, to write behind its end. -/
  | openLog (p : Path) (next : Except SystemError Unit → Plan α)
  /-- Writes a line to the log, if it is open. -/
  | log (line : String) (next : Plan α)
  /-- Takes the standard input. -/
  | input (next : Source → Plan α)
  /-- Writes to the standard output. -/
  | output (data : Bytes) (next : Plan α)
  /-- Writes to the standard error. -/
  | complain (text : String) (next : Plan α)

namespace Plan

/-- A plan that goes on as the value of another says. -/
def bind {α β : Type} (p : Plan α) (f : α → Plan β) : Plan β :=
  match p with
  | done a => f a
  | look p next => look p fun there => (next there).bind f
  | openFile p next => openFile p fun r => (next r).bind f
  | fileMode next => fileMode fun r => (next r).bind f
  | read most next => read most fun r => (next r).bind f
  | makeAside directory next => makeAside directory fun r => (next r).bind f
  | write data next => write data (next.bind f)
  | flush next => flush fun r => (next r).bind f
  | setMode mode next => setMode mode fun r => (next r).bind f
  | rename p next => rename p fun r => (next r).bind f
  | removeAside next => removeAside (next.bind f)
  | makeDirectories p next => makeDirectories p fun r => (next r).bind f
  | openLog p next => openLog p fun r => (next r).bind f
  | log line next => log line (next.bind f)
  | input next => input fun s => (next s).bind f
  | output data next => output data (next.bind f)
  | complain text next => complain text (next.bind f)

instance : Monad Plan where
  pure := done
  bind := bind

/-- Lines for the log, one after the other. -/
def logAll : List String → Plan Unit
  | [] => done ()
  | line :: lines => log line (logAll lines)

end Plan
end StreamEditor
