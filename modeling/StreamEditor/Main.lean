/-
# The command

Carries out the plan of the program on the system: each step of a plan is one operation on files,
the standard streams or the log. What the system does not tell is filled in: a file that is put in
place of another has the permission bits of a new one.

Key definitions: `Command.perform`, `main`.
-/
import Std.Time.DateTime.Timestamp
import StreamEditor.Log.Stamp
import StreamEditor.Program

namespace StreamEditor
namespace Command

/-- What the system says went wrong. -/
def cause : IO.Error → SystemError
  | .userError text => .described .other text
  | .unexpectedEof => .bare .unexpectedEnd
  | .alreadyExists _ n _ => .numbered n.toNat
  | .otherError n _ => .numbered n.toNat
  | .resourceBusy n _ => .numbered n.toNat
  | .resourceVanished n _ => .numbered n.toNat
  | .unsupportedOperation n _ => .numbered n.toNat
  | .hardwareFault n _ => .numbered n.toNat
  | .unsatisfiedConstraints n _ => .numbered n.toNat
  | .illegalOperation n _ => .numbered n.toNat
  | .protocolError n _ => .numbered n.toNat
  | .timeExpired n _ => .numbered n.toNat
  | .interrupted _ n _ => .numbered n.toNat
  | .noFileOrDirectory _ n _ => .numbered n.toNat
  | .invalidArgument _ n _ => .numbered n.toNat
  | .permissionDenied _ n _ => .numbered n.toNat
  | .resourceExhausted _ n _ => .numbered n.toNat
  | .inappropriateType _ n _ => .numbered n.toNat
  | .noSuchThing _ n _ => .numbered n.toNat

/-- The result of an operation, or what went wrong with it. -/
def attempt {α : Type} (operation : IO α) : IO (Except SystemError α) := do
  try
    return .ok (← operation)
  catch e =>
    return .error (cause e)

/-- What is open while a plan is carried out: the log, the file that is read, and the file made
aside with its path. -/
structure Handles where
  log : Option IO.FS.Handle := none
  reading : Option IO.FS.Handle := none
  aside : Option (String × IO.FS.Handle) := none

/-- Reads on in a file: at most so many bytes, or all that are left. -/
def read (reading : Option IO.FS.Handle) (most : Option Nat) : IO (Except SystemError Bytes) :=
  match reading, most with
  | none, _ => return .error World.notOpen
  | some handle, some n => attempt do return (← handle.read n.toUSize).toList
  | some handle, none => attempt do return (← handle.readBinToEnd).toList

/-- A letter or a digit that is drawn. -/
def drawLetter : IO Char := do
  let letters := "abcdefghijklmnopqrstuvwxyzABCDEFGHIJKLMNOPQRSTUVWXYZ0123456789".toList
  return letters.getD (← IO.rand 0 (letters.length - 1)) 'a'

/-- Makes an empty file aside, in a directory, with at most so many names drawn. -/
def makeAside (directory : Path) : Nat → IO (Except SystemError (String × IO.FS.Handle))
  | 0 => return .error Aside.noFreeName
  | draws + 1 => do
    let letters ← (List.range 6).mapM fun _ => drawLetter
    let path := Path.text (Path.join directory (bytesOf (".tmp" ++ String.ofList letters)))
    match ← attempt (IO.FS.Handle.mk path .writeNew) with
    | .ok handle => return .ok (path, handle)
    | .error e => if e.kind == .alreadyExists then makeAside directory draws else return .error e

/-- Does something with the file made aside. -/
def withAside (h : Handles) (operation : String → IO.FS.Handle → IO Unit) :
    IO (Except SystemError Unit) :=
  match h.aside with
  | none => return .error .noEntry
  | some (path, handle) => attempt (operation path handle)

/-- The standard input. -/
def input : IO Source := do
  match ← attempt (IO.FS.readBinFile "/dev/stdin") with
  | .ok data => return .ofBytes data.toList
  | .error e => return [.error e]

/-- Writes a line to a log. -/
def note (log : Option IO.FS.Handle) (line : String) : IO Unit := do
  match log with
  | none => return
  | some handle =>
    let now ← Std.Time.Timestamp.now
    let microseconds := now.toNanosecondsSinceUnixEpoch.val.toNat / 1000
    handle.putStr (Log.stamp microseconds ++ " " ++ line ++ "\n")
    handle.flush

/-- Carries out a plan on the system, with what is open. -/
def perform {α : Type} : Plan α → Handles → IO α
  | .done a, _ => return a
  | .look p next, h => do
    let there ← attempt (IO.FS.realPath (Path.text p))
    perform (next there.isOk) h
  | .openFile p next, h => do
    match ← attempt (IO.FS.Handle.mk (Path.text p) .read) with
    | .ok handle => perform (next (.ok ())) { h with reading := some handle }
    | .error e => perform (next (.error e)) h
  | .fileMode next, h => perform (next (.ok Tree.newFileMode)) h
  | .read most next, h => do perform (next (← read h.reading most)) h
  | .makeAside directory next, h => do
    match ← makeAside directory Aside.maxDraws with
    | .ok aside => perform (next (.ok ())) { h with aside := some aside }
    | .error e => perform (next (.error e)) h
  | .write data next, h => do
    if let some (_, handle) := h.aside then handle.write data.toByteArray
    perform next h
  | .flush next, h => do perform (next (← withAside h fun _ handle => handle.flush)) h
  | .setMode _ next, h => perform (next (.ok ())) h
  | .rename p next, h => do
    perform (next (← withAside h fun path _ => IO.FS.rename path (Path.text p))) h
  | .removeAside next, h => do
    let _ ← withAside h fun path _ => IO.FS.removeFile path
    perform next { h with aside := none }
  | .makeDirectories p next, h => do
    perform (next (← attempt (IO.FS.createDirAll (Path.text p)))) h
  | .openLog p next, h => do
    match ← attempt (IO.FS.Handle.mk (Path.text p) .append) with
    | .ok handle => perform (next (.ok ())) { h with log := some handle }
    | .error e => perform (next (.error e)) h
  | .log line next, h => do
    note h.log line
    perform next h
  | .input next, h => do perform (next (← input)) h
  | .output data next, h => do
    (← IO.getStdout).write data.toByteArray
    perform next h
  | .complain text next, h => do
    (← IO.getStderr).putStr text
    perform next h

/-- How the program was started. -/
def invocation (arguments : List String) : IO Invocation := do
  let program ← IO.appPath
  let home ← IO.getEnv "HOME"
  return {
    arguments := (program.toString :: arguments).map bytesOf
    home := (home.filter (! ·.isEmpty)).map bytesOf
    filter := ← IO.getEnv "CCSED_LOG" }

end Command
end StreamEditor

/-- Runs the program. -/
def main (arguments : List String) : IO UInt32 := do
  let i ← StreamEditor.Command.invocation arguments
  return (← StreamEditor.Command.perform (StreamEditor.Program.plan i) {}).toUInt32
