/-
# Files made aside

A file is made aside under a name that nothing has, in a directory that is given. It is written
there, gets its permission bits, and is then moved over what a path names last, or removed. Names
are drawn one after the other until one is free. In a directory above the working directory, of
which nothing is known, the first name drawn is free.

Key definitions: `Aside`, `Aside.make`, `Aside.append`, `Aside.setMode`, `Aside.move`,
`Aside.remove`.
-/
import StreamEditor.Files.Tree

namespace StreamEditor

/-- A file made aside: below the working directory, or above it, with its content and permission
bits. -/
inductive Aside where
  | within (l : Location)
  | beyond (data : Bytes) (mode : Nat)
  deriving DecidableEq, Repr

namespace Aside

/-- The permission bits of a file just made aside: nobody else can read it. -/
def newMode : Nat := 0o600

/-- How many names are drawn at most. -/
def maxDraws : Nat := 65536

/-- What is told when all names drawn are taken. -/
def noFreeName : SystemError := .described .alreadyExists "too many temporary files exist"

/-- The first of `count` names, drawn from number `n` on, that is free in a directory. -/
def freeName (t : Tree) (draw : Nat → Name) (directory : Location) : Nat → Nat → Option Name
  | 0, _ => none
  | count + 1, n =>
    if (t.get? (directory ++ [draw n])).isNone then some (draw n)
    else freeName t draw directory count (n + 1)

/-- Makes an empty file aside, in the directory that a path leads to. -/
def make (t : Tree) (draw : Nat → Name) (directory : Path) :
    Except SystemError (Aside × Tree) := do
  match ← t.resolve false directory with
  | .above => .ok (beyond [] newMode, t)
  | .below l =>
    if t.get? l == some .directory then
      match freeName t draw l maxDraws 0 with
      | some name => .ok (within (l ++ [name]), t.put (l ++ [name]) (.file [] newMode))
      | none => .error noFreeName
    else .error .notDirectory

/-- Writes behind the end of a file made aside. -/
def append (t : Tree) (data : Bytes) : Aside → Aside × Tree
  | within l => (within l, t.append l data)
  | beyond old mode => (beyond (old ++ data) mode, t)

/-- Changes the permission bits of a file made aside. -/
def setMode (t : Tree) (mode : Nat) : Aside → Aside × Tree
  | within l => (within l, t.setMode l mode)
  | beyond data _ => (beyond data mode, t)

/-- What a file made aside is. -/
def entry? (t : Tree) : Aside → Option Entry
  | within l => t.get? l
  | beyond data mode => some (.file data mode)

/-- The tree without a file made aside. -/
def remove (t : Tree) : Aside → Tree
  | within l => t.erase l
  | beyond _ _ => t

/-- Moves a file made aside over what a path names last: the place of that, and the tree after
it. -/
def move (t : Tree) (p : Path) (a : Aside) : Except SystemError (Location × Tree) := do
  let l ← t.place p
  match a.entry? t with
  | some e => .ok (l, (a.remove t).put l e)
  | none => .error .noEntry

end Aside
end StreamEditor
