/-
# Trees of files

The files below the working directory: regular files with their content and permission bits,
directories, and symbolic links. A path is followed name by name; a link stands for the path it
holds, up to a number of links in all. What lies outside the working directory is not known:
there are directories on the way up and nothing else.

Key definitions: `Entry`, `Tree`, `Tree.get?`, `Tree.put`, `Tree.erase`, `Tree.resolve`,
`Tree.find`, `Tree.openFile`, `Tree.place`, `Tree.makeDirectories`, `Tree.openEnd`.
-/
import StreamEditor.Files.Path
import StreamEditor.Stream.Source

namespace StreamEditor

/-- A place below the working directory: the names that lead to it. -/
abbrev Location := List Name

/-- What stands at a place. -/
inductive Entry where
  | file (data : Bytes) (mode : Nat)
  | directory
  | link (target : Path)
  deriving DecidableEq, Repr

/-- The files below the working directory, each at its place. -/
structure Tree where
  entries : List (Location × Entry)
  deriving DecidableEq, Repr

/-- Where a path leads: below the working directory, or to a directory above it. -/
inductive Spot where
  | below (l : Location)
  | above
  deriving DecidableEq, Repr

namespace Tree

/-- The entry at a place; the working directory is one. -/
def get? (t : Tree) (l : Location) : Option Entry :=
  match l with
  | [] => some .directory
  | _ => t.entries.lookup l

/-- The tree with an entry at a place, whatever stood there. -/
def put (t : Tree) (l : Location) (e : Entry) : Tree :=
  ⟨(l, e) :: t.entries.filter fun entry => entry.1 != l⟩

/-- The tree without what stands at a place. -/
def erase (t : Tree) (l : Location) : Tree :=
  ⟨t.entries.filter fun entry => entry.1 != l⟩

/-! ### Following paths -/

/-- How many links a path may lead through. -/
def maxLinks : Nat := 40

/-- How many bytes a name may have. -/
def maxName : Nat := 255

/-- How many bytes a path may have. -/
def maxPath : Nat := 4095

/-- The directory above. -/
def parent : Spot → Spot
  | .below [] => .above
  | .below (n :: ns) => .below (n :: ns).dropLast
  | .above => .above

/-- Where a path starts. -/
def base (p : Path) (here : Spot) : Spot :=
  if Path.isAbsolute p then .above else here

/-- Follows names from a directory. `follow` continues at a link, with the directory its path
starts from and the names still to follow. If `making` is true, the last name may be one that is
not there. -/
def walk (t : Tree) (follow : Spot → List Name → Except SystemError Spot) (making : Bool) :
    Spot → List Name → Except SystemError Spot
  | here, [] => .ok here
  | .above, n :: ns =>
    if n == Path.dot || n == Path.dotDot then walk t follow making .above ns
    else .error .noEntry
  | .below l, n :: ns =>
    match t.get? l with
    | some .directory =>
      if n == Path.dot then walk t follow making (.below l) ns
      else if n == Path.dotDot then walk t follow making (parent (.below l)) ns
      else if maxName < n.length then .error .nameTooLong
      else
        match t.get? (l ++ [n]) with
        | none => if making && ns.isEmpty then .ok (.below (l ++ [n])) else .error .noEntry
        | some (.link target) => follow (base target (.below l)) (Path.names target ++ ns)
        | some _ => walk t follow making (.below (l ++ [n])) ns
    | _ => .error .notDirectory

/-- Follows names through at most `n` links. -/
def walkLinks (t : Tree) (making : Bool) : Nat → Spot → List Name → Except SystemError Spot
  | 0 => walk t (fun _ _ => .error .linkLoop) making
  | n + 1 => walk t (walkLinks t making n) making

/-- What is wrong with a path before it is followed. -/
def pathFault? (p : Path) : Option SystemError :=
  if p.contains 0 then some .nulInName
  else if p.isEmpty then some .noEntry
  else if maxPath < p.length then some .nameTooLong
  else none

/-- Where a path leads, through all links; if `making` is true, what it names last may be missing
from its directory. -/
def resolve (t : Tree) (making : Bool) (p : Path) : Except SystemError Spot :=
  match pathFault? p with
  | some fault => .error fault
  | none => walkLinks t making maxLinks (base p (.below [])) (Path.names p)

/-! ### Opening -/

/-- A file that was opened for reading: its content and permission bits, or a directory, which
opens and cannot be read. -/
inductive Opened where
  | file (data : Bytes) (mode : Nat)
  | directory
  deriving DecidableEq, Repr

/-- The permission bits that directories have. -/
def directoryMode : Nat := 0o755

namespace Opened

/-- The permission bits of an opened file. -/
def mode : Opened → Nat
  | .file _ mode => mode
  | .directory => directoryMode

/-- What reading an opened file gives. -/
def source : Opened → Source
  | .file data _ => Source.ofBytes data
  | .directory => [.error .isDirectory]

/-- The content of an opened file. -/
def content : Opened → Except SystemError Bytes
  | .file data _ => .ok data
  | .directory => .error .isDirectory

/-- What a read gives of which `position` bytes were read before: at most so many bytes, or all
that are left. -/
def read (o : Opened) (position : Nat) (most : Option Nat) : Except SystemError Bytes :=
  o.content.map fun data =>
    match most with
    | some n => (data.drop position).take n
    | none => data.drop position

end Opened

/-- What is opened at a spot, if anything stands there. -/
def at? (t : Tree) : Spot → Option Opened
  | .above => some .directory
  | .below l =>
    match t.get? l with
    | some (.file data mode) => some (.file data mode)
    | some _ => some .directory
    | none => none

/-- Where the file stands that a path leads to, and what opening it gives. -/
def find (t : Tree) (p : Path) : Except SystemError (Spot × Opened) := do
  let spot ← t.resolve false p
  match t.at? spot with
  | some opened => .ok (spot, opened)
  | none => .error .noEntry

/-- Opens the file that a path leads to. -/
def openFile (t : Tree) (p : Path) : Except SystemError Opened :=
  (t.find p).map (·.2)

/-- Whether a path leads to a directory. -/
def isDirectory (t : Tree) (p : Path) : Bool :=
  match t.openFile p with
  | .ok .directory => true
  | _ => false

/-! ### Changing -/

/-- The directory that holds what a path names last, and that name. -/
def holder (t : Tree) (p : Path) : Except SystemError (Spot × Name) :=
  match pathFault? p, (Path.namesFrom [] p).getLast? with
  | some fault, _ => .error fault
  | none, none => .error .busy
  | none, some name => do
    let outer := (Path.namesFrom [] p).dropLast
    let spot ← walkLinks t false maxLinks (base p (.below [])) outer
    .ok (spot, name)

/-- The place that a path names itself, where a file can be put; a link there is not followed. A
directory has no such place, nor has a path that can only mean a directory. -/
def place (t : Tree) (p : Path) : Except SystemError Location := do
  let (spot, name) ← t.holder p
  if name == Path.dot || name == Path.dotDot then .error .busy
  else if Path.endsWithSlash p then .error .notDirectory
  else
    match spot with
    | .above => .error .noEntry
    | .below l =>
      if t.get? (l ++ [name]) == some .directory then .error .isDirectory else .ok (l ++ [name])

/-- Makes a directory, whose holder has to be there. -/
def makeDirectory (t : Tree) (p : Path) : Except SystemError Tree := do
  match ← t.holder p with
  | (.above, name) =>
    if name == Path.dot || name == Path.dotDot then .error .alreadyThere else .error .noEntry
  | (.below l, name) =>
    match t.get? l with
    | some .directory =>
      if name == Path.dot || name == Path.dotDot then .error .alreadyThere
      else if (t.get? (l ++ [name])).isSome then .error .alreadyThere
      else .ok (t.put (l ++ [name]) .directory)
    | _ => .error .notDirectory

/-- Makes a directory and those that are to hold it, as far as they are not there; `fuel` bounds
their number. -/
def makeDirectoriesFrom : Nat → Tree → Path → Except SystemError Tree
  | 0, t, _ => .ok t
  | fuel + 1, t, p =>
    let orThere (t : Tree) (e : SystemError) : Except SystemError Tree :=
      if t.isDirectory p then .ok t else .error e
    if p.isEmpty then .ok t
    else
      match t.makeDirectory p with
      | .ok t => .ok t
      | .error e =>
        if e.kind == .notFound then do
          let t ← makeDirectoriesFrom fuel t (Path.parent p)
          match t.makeDirectory p with
          | .ok t => .ok t
          | .error e => orThere t e
        else orThere t e

/-- Makes a directory and those that are to hold it, as far as they are not there. -/
def makeDirectories (t : Tree) (p : Path) : Except SystemError Tree :=
  makeDirectoriesFrom (p.length + 1) t p

/-- The permission bits of a new file. -/
def newFileMode : Nat := 0o644

/-- Opens a file to write behind its end: its place, and the tree with an empty file there if there
was none. Links are followed, also to a file that is not there yet. -/
def openEnd (t : Tree) (p : Path) : Except SystemError (Location × Tree) := do
  match ← t.resolve true p with
  | .above => .error .isDirectory
  | .below l =>
    match t.get? l with
    | some .directory => .error .isDirectory
    | some _ => .ok (l, t)
    | none => .ok (l, t.put l (.file [] newFileMode))

/-- Writes behind the end of the file at a place. -/
def append (t : Tree) (l : Location) (data : Bytes) : Tree :=
  match t.get? l with
  | some (.file old mode) => t.put l (.file (old ++ data) mode)
  | _ => t

/-- Changes the permission bits of the file at a place. -/
def setMode (t : Tree) (l : Location) (mode : Nat) : Tree :=
  match t.get? l with
  | some (.file data _) => t.put l (.file data mode)
  | _ => t

end Tree
end StreamEditor
