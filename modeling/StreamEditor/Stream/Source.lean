/-
# Sources of lines

Input arrives as a list of events: bytes, a read that gives none, an interruption, or an error.
The lines of the input are cut after every line feed, and a read without bytes inside a line
ends it. Such a read at the start of a line, or the last event, ends the input; interruptions
are passed over; an error ends the input too, and the bytes of the unfinished line are lost.

Key definitions: `ReadEvent`, `Source`, `cutLines`, `Source.lines`, `Source.ending`.
-/
import StreamEditor.SystemError
import StreamEditor.Text.Bytes

namespace StreamEditor

/-- The byte that ends a line. -/
def lineFeed : UInt8 := 10

/-- What one read gives. -/
inductive ReadEvent where
  | data (bytes : Bytes)
  | error (cause : SystemError)
  deriving DecidableEq, Repr

/-- An input: what its reads give, one after the other. -/
abbrev Source := List ReadEvent

/-- The source that gives some bytes at once. -/
def Source.ofBytes (bytes : Bytes) : Source := [.data bytes]

/-- Cuts bytes after every line feed: the lines that are complete, and the bytes of the last
one. `line` holds the bytes of the first line read before, in backward order. -/
def cutLines : Bytes → Bytes → List Bytes × Bytes
  | line, [] => ([], line)
  | line, b :: rest =>
    if b == lineFeed then
      let (lines, last) := cutLines [] rest
      ((b :: line).reverse :: lines, last)
    else cutLines (b :: line) rest

namespace Source

/-- The lines of a source and the error that ends it, if one does. `line` holds the bytes of an
unfinished line, in backward order. -/
def readFrom : Bytes → Source → List Bytes × Option SystemError
  | line, [] => (if line.isEmpty then [] else [line.reverse], none)
  | line, .error cause :: rest =>
    if cause.isInterruption then readFrom line rest else ([], some cause)
  | line, .data [] :: rest =>
    if line.isEmpty then ([], none)
    else
      let (lines, ending) := readFrom [] rest
      (line.reverse :: lines, ending)
  | line, .data (b :: bytes) :: rest =>
    let (done, last) := cutLines line (b :: bytes)
    let (lines, ending) := readFrom last rest
    (done ++ lines, ending)

/-- The lines of a source, with their line feeds. -/
def lines (s : Source) : List Bytes :=
  (readFrom [] s).1

/-- The error that ends a source, if one does. -/
def ending (s : Source) : Option SystemError :=
  (readFrom [] s).2

end Source

/-- The physical lines of some bytes: cut after every line feed, a rest without one being a line
if it is not empty. -/
def physicalLines (bytes : Bytes) : List Bytes :=
  let (lines, last) := cutLines [] bytes
  if last.isEmpty then lines else lines ++ [last.reverse]

end StreamEditor
