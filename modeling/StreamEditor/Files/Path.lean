/-
# Paths

A path is a string of bytes without a zero byte; slashes part the names it goes through. A path
that begins with a slash starts at the root of the system, any other at the working directory.
A slash at the end asks for a directory, just as a last name that means the directory itself.

Key definitions: `Path`, `Path.names`, `Path.isAbsolute`, `Path.join`, `Path.parent`,
`Path.fileName`.
-/
import StreamEditor.Text.Bytes

namespace StreamEditor

/-- A path as it is written. -/
abbrev Path := Bytes

/-- A name in a directory. -/
abbrev Name := Bytes

namespace Path

/-- The byte between the names of a path. -/
def slash : UInt8 := 47

/-- The name of a directory in itself. -/
def dot : Name := [46]

/-- The name of the directory above in a directory. -/
def dotDot : Name := [46, 46]

/-- Whether a path starts at the root of the system. -/
def isAbsolute (p : Path) : Bool :=
  p.head? == some slash

/-- Whether a path ends with a slash. -/
def endsWithSlash (p : Path) : Bool :=
  p.getLast? == some slash

/-- The names of a path, where `name` is the one being read, in backward order. Names between two
slashes in a row are empty and left out. -/
def namesFrom : Bytes → Bytes → List Name
  | name, [] => if name.isEmpty then [] else [name.reverse]
  | name, b :: rest =>
    if b == slash then
      if name.isEmpty then namesFrom [] rest else name.reverse :: namesFrom [] rest
    else namesFrom (b :: name) rest

/-- The names of a path; a slash at the end stands for the directory itself. -/
def names (p : Path) : List Name :=
  namesFrom [] p ++ (if endsWithSlash p then [dot] else [])

/-- The path of an entry in a directory. -/
def join (directory : Path) (name : Name) : Path :=
  if directory.isEmpty || endsWithSlash directory then directory ++ name
  else directory ++ slash :: name

/-- The last name of a path, if it names anything. -/
def fileName (p : Path) : Option Name :=
  match (namesFrom [] p).filter (· != dot) |>.getLast? with
  | some name => if name == dotDot then none else some name
  | none => none

/-- A path without the slashes at its end, but for the one that it may consist of. -/
def trimmed (p : Path) : Path :=
  match (p.reverse.dropWhile (· == slash)).reverse with
  | [] => p.take 1
  | q => q

/-- The path of the directory that holds what a path names last; it is empty for the working
directory. -/
def parent (p : Path) : Path :=
  let up := ((trimmed p).reverse.dropWhile (· != slash)).reverse
  if up.isEmpty then [] else trimmed up

/-- The path as it is shown. -/
def text (p : Path) : String := Utf8.lossy p

end Path
end StreamEditor
