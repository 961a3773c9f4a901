/-
# Sinks for output

A sink takes bytes a few at a time: a write may be interrupted and is then tried again, it may
take fewer bytes than it is given, and it may fail once the sink is full. Writing all of some
bytes repeats single writes until the bytes are taken or a write fails.

Key definitions: `Sink`, `Sink.write`, `Sink.writeAll`, `Sink.writeEach`, `Sink.flush`.
-/
import StreamEditor.SystemError
import StreamEditor.Text.Bytes

namespace StreamEditor

/-- How a sink deals with writes up to the next one that is not interrupted: how many are
interrupted, and how many bytes that one takes at most. -/
structure Turn where
  interrupts : Nat
  most : Option Nat
  deriving DecidableEq, Repr

/-- A sink: the bytes it took, how many it takes in all, what a write to a full sink fails with
(it takes no byte if this is `none`), how many bytes the next write takes at most that is not
interrupted, how many writes are interrupted before it, what flushing fails with, and the turns
after this one, of which the last goes on for ever without interruptions. -/
structure Sink where
  taken : Bytes
  limit : Option Nat
  full : Option SystemError
  most : Option Nat
  interrupts : Nat
  flushError : Option SystemError
  later : List Turn := []
  deriving Repr

namespace Sink

/-- A sink that takes everything. -/
def unlimited : Sink := ⟨[], none, none, none, 0, none, []⟩

/-- How many of `size` bytes a single write takes. -/
def room (s : Sink) (size : Nat) : Nat :=
  min (min size (s.most.getD size)) ((s.limit.map (· - s.taken.length)).getD size)

/-- Whether a sink takes no more bytes. -/
def isFull (s : Sink) : Bool :=
  s.limit.any fun limit => decide (limit ≤ s.taken.length)

/-- The sink at its next turn. -/
def turned (s : Sink) : Sink :=
  match s.later with
  | [] => s
  | turn :: later => { s with interrupts := turn.interrupts, most := turn.most, later }

/-- A single write: how many bytes were taken, or the error. -/
def write (s : Sink) (bytes : Bytes) : Except SystemError Nat × Sink :=
  match s.interrupts with
  | n + 1 => (.error (.bare .interrupted), { s with interrupts := n })
  | 0 =>
    match s.isFull, s.full with
    | true, some cause => (.error cause, s)
    | _, _ =>
      let n := s.room bytes.length
      (.ok n, { s with taken := s.taken ++ bytes.take n }.turned)

/-- Writes until all bytes are taken or a write fails. `fuel` bounds the number of writes; only a
sink that interrupts for ever uses it up. -/
def writeFrom : Nat → Sink → Bytes → Option SystemError × Sink
  | _, s, [] => (none, s)
  | 0, s, _ :: _ => (some (.bare .interrupted), s)
  | fuel + 1, s, b :: rest =>
    match s.write (b :: rest) with
    | (.ok 0, s) => (some .nothingWritten, s)
    | (.ok n, s) => writeFrom fuel s ((b :: rest).drop n)
    | (.error cause, s) =>
      if cause.isInterruption then writeFrom fuel s (b :: rest) else (some cause, s)

/-- How many writes are interrupted in some turns. -/
def interruptions : List Turn → Nat
  | [] => 0
  | turn :: later => turn.interrupts + interruptions later

/-- How many writes are interrupted, in this turn and all later ones. -/
def patience (s : Sink) : Nat :=
  s.interrupts + interruptions s.later

/-- Writes all of some bytes, or as many as the sink takes before a write fails. Each write is
interrupted, takes a byte, or is the last. -/
def writeAll (s : Sink) (bytes : Bytes) : Option SystemError × Sink :=
  writeFrom (s.patience + bytes.length + 1) s bytes

/-- Writes all of each piece, one after the other, until a write fails. -/
def writeEach : Sink → List Bytes → Option SystemError × Sink
  | s, [] => (none, s)
  | s, piece :: pieces =>
    match s.writeAll piece with
    | (some cause, s) => (some cause, s)
    | (none, s) => writeEach s pieces

/-- Flushes the sink, which is not tried again. -/
def flush (s : Sink) : Option SystemError :=
  s.flushError

end Sink
end StreamEditor
