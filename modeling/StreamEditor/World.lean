/-
# Worlds

A world is what a plan can change: the files, what was written to the standard output and error,
the log that is open, the file that is open for reading, and the file made aside. Carrying out a
plan in a world gives its value and the world after it. The log is a file of the tree; it stays
open when another file is put in its place, and what is written to it then is lost.

Some things the files do not tell: which names are drawn for files made aside, and whether the
system refuses a step though nothing in the tree stands against it, for want of room or of rights.
They are given with the world. A file may be there and yet not be opened; to look for a path that
may not be followed is to find nothing there.

Key definitions: `FileStep`, `System`, `World`, `World.run`, `World.run_bind`.
-/
import StreamEditor.Plan

namespace StreamEditor

/-- The steps that a system may refuse, whatever the files are. -/
inductive FileStep where
  | look (p : Path)
  | openFile (p : Path)
  | metadata
  | create
  | flush
  | permissions
  | rename
  | makeDirectories (p : Path)
  | openLog (p : Path)
  deriving DecidableEq, Repr

/-- What the files do not tell: the names drawn for files made aside, and what each step is refused
with, if it is. -/
structure System where
  draw : Nat → Name
  refusal : FileStep → Option SystemError

namespace System

/-- A name for a file made aside, with six digits of a number in it. -/
def numberedName (n : Nat) : Name :=
  [46, 116, 109, 112] ++
    [100000, 10000, 1000, 100, 10, 1].map fun unit => UInt8.ofNat (48 + n / unit % 10)

/-- The system that draws numbered names in order and refuses nothing. -/
def willing : System := ⟨numberedName, fun _ => none⟩

/-- Whether a system lets a step pass. -/
def permit (s : System) (step : FileStep) : Except SystemError Unit :=
  match s.refusal step with
  | some cause => .error cause
  | none => .ok ()

/-- Whether a path leads to anything, as far as the system lets that be known. -/
def isThere (s : System) (t : Tree) (p : Path) : Bool :=
  ((s.permit (.look p)).bind fun _ => t.find p).isOk

/-- Where the file stands that a path leads to, and what opening it gives, if the system lets it be
opened. -/
def find (s : System) (t : Tree) (p : Path) : Except SystemError (Spot × Tree.Opened) :=
  (s.permit (.openFile p)).bind fun _ => t.find p

/-- Opens the file that a path leads to, if the system lets it be opened. -/
def openFile (s : System) (t : Tree) (p : Path) : Except SystemError Tree.Opened :=
  (s.find t p).map (·.2)

/-- Makes a directory and those that are to hold it, if the system lets them be made. -/
def makeDirectories (s : System) (t : Tree) (p : Path) : Except SystemError Tree :=
  (s.permit (.makeDirectories p)).bind fun _ => t.makeDirectories p

/-- Opens a log to write behind its end, if the system lets it be opened. -/
def openLog (s : System) (t : Tree) (p : Path) : Except SystemError (Location × Tree) :=
  (s.permit (.openLog p)).bind fun _ => t.openEnd p

end System

/-- A file that is open for reading: where it stands, and how many of its bytes were read. -/
structure Reading where
  spot : Spot
  position : Nat
  deriving DecidableEq, Repr

/-- What a plan can see and change. Log lines begin with `stamp`. -/
structure World where
  tree : Tree
  input : Source
  output : Bytes
  complaints : Bytes
  log : Option Location
  stamp : String
  reading : Option Reading := none
  aside : Option Aside := none
  system : System := .willing

namespace World

/-- The world with some files, and nothing else. -/
def ofTree (t : Tree) (system : System := .willing) : World :=
  { tree := t, input := [], output := [], complaints := [], log := none, stamp := "", system }

/-! ### The file that is open for reading -/

/-- There is no file open. -/
def notOpen : SystemError := .numbered 9

/-- Opens a file, to read it from its beginning. -/
def openFile (w : World) (p : Path) : Except SystemError World :=
  (w.system.find w.tree p).map fun (spot, _) => { w with reading := some ⟨spot, 0⟩ }

/-- The file that is open for reading. -/
def opened (w : World) : Except SystemError Tree.Opened :=
  match w.reading.bind fun r => w.tree.at? r.spot with
  | some opened => .ok opened
  | none => .error notOpen

/-- The permission bits of the file that is open for reading. -/
def fileMode (w : World) : Except SystemError Nat := do
  w.system.permit .metadata
  .ok (← w.opened).mode

/-- Reads on in the file that is open for reading. -/
def read (w : World) (most : Option Nat) : Except SystemError Bytes × World :=
  match w.reading, w.opened.bind (·.read ((w.reading.map (·.position)).getD 0) most) with
  | some r, .ok data =>
    (.ok data, { w with reading := some { r with position := r.position + data.length } })
  | _, answer => (answer, w)

/-! ### The file made aside -/

/-- Makes an empty file aside. -/
def makeAside (w : World) (directory : Path) : Except SystemError World := do
  w.system.permit .create
  let (aside, tree) ← Aside.make w.tree w.system.draw directory
  .ok { w with tree, aside := some aside }

/-- Writes to the file made aside. -/
def write (w : World) (data : Bytes) : World :=
  match w.aside with
  | some a =>
    let (a, tree) := a.append w.tree data
    { w with tree, aside := some a }
  | none => w

/-- Sets the permission bits of the file made aside. -/
def setMode (w : World) (mode : Nat) : Except SystemError World := do
  w.system.permit .permissions
  match w.aside with
  | some a =>
    let (a, tree) := a.setMode w.tree mode
    .ok { w with tree, aside := some a }
  | none => .error .noEntry

/-- Moves the file made aside over what a path names last. -/
def rename (w : World) (p : Path) : Except SystemError World := do
  w.system.permit .rename
  match w.aside with
  | some a =>
    let (l, tree) ← a.move w.tree p
    .ok { w with tree, aside := none, log := if w.log == some l then none else w.log }
  | none => .error .noEntry

/-- Removes the file made aside. -/
def removeAside (w : World) : World :=
  match w.aside with
  | some a => { w with tree := a.remove w.tree, aside := none }
  | none => w

/-! ### Carrying out plans -/

/-- Writes a line to the log, if it is open. -/
def note (w : World) (line : String) : World :=
  match w.log with
  | some l => { w with tree := w.tree.append l (bytesOf (w.stamp ++ " " ++ line ++ "\n")) }
  | none => w

/-- What is left of an answer with a new world: the answer, and that world, or the old one. -/
def settle (w : World) : Except SystemError World → Except SystemError Unit × World
  | .ok w => (.ok (), w)
  | .error e => (.error e, w)

/-- Carries out a plan: its value and the world after it. -/
def run {α : Type} : Plan α → World → α × World
  | .done a, w => (a, w)
  | .look p next, w => run (next (w.system.isThere w.tree p)) w
  | .openFile p next, w =>
    let (answer, w) := w.settle (w.openFile p)
    run (next answer) w
  | .fileMode next, w => run (next w.fileMode) w
  | .read most next, w =>
    let (answer, w) := w.read most
    run (next answer) w
  | .makeAside directory next, w =>
    let (answer, w) := w.settle (w.makeAside directory)
    run (next answer) w
  | .write data next, w => run next (w.write data)
  | .flush next, w => run (next (w.system.permit .flush)) w
  | .setMode mode next, w =>
    let (answer, w) := w.settle (w.setMode mode)
    run (next answer) w
  | .rename p next, w =>
    let (answer, w) := w.settle (w.rename p)
    run (next answer) w
  | .removeAside next, w => run next w.removeAside
  | .makeDirectories p next, w =>
    let (answer, w) :=
      w.settle ((w.system.makeDirectories w.tree p).map fun tree => { w with tree })
    run (next answer) w
  | .openLog p next, w =>
    let (answer, w) :=
      w.settle ((w.system.openLog w.tree p).map fun (l, tree) => { w with tree, log := some l })
    run (next answer) w
  | .log line next, w => run next (w.note line)
  | .input next, w => run (next w.input) { w with input := [] }
  | .output data next, w => run next { w with output := w.output ++ data }
  | .complain text next, w => run next { w with complaints := w.complaints ++ bytesOf text }

/-- Carrying out a plan that goes on as another says is carrying out one after the other. -/
theorem run_bind {α β : Type} (p : Plan α) (f : α → Plan β) (w : World) :
    run (p >>= f) w = run (f (run p w).1) (run p w).2 := by
  change run (p.bind f) w = _
  induction p generalizing w with
  | done a => rfl
  | look p next ih => exact ih _ _
  | openFile p next ih => exact ih _ _
  | fileMode next ih => exact ih _ _
  | read most next ih => exact ih _ _
  | makeAside directory next ih => exact ih _ _
  | write data next ih => exact ih _
  | flush next ih => exact ih _ _
  | setMode mode next ih => exact ih _ _
  | rename p next ih => exact ih _ _
  | removeAside next ih => exact ih _
  | makeDirectories p next ih => exact ih _ _
  | openLog p next ih => exact ih _ _
  | log line next ih => exact ih _
  | input next ih => exact ih _ _
  | output data next ih => exact ih _
  | complain text next ih => exact ih _

end World
end StreamEditor
