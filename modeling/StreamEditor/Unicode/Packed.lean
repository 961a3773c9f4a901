/-
# Tables packed into letters

The tables of Unicode are long lists of small numbers. They are kept as text: a number is
written in base 26, its last digit as a small letter and every digit before it as a capital, so
numbers need no separator. A set of codes is written as the gaps before its intervals and their
lengths, a partition with a third number for the part an interval belongs to.

Key definitions: `Packed.numbers`, `Packed.codeSet`, `Packed.runs`, `Partition`.
-/
import StreamEditor.Unicode.CodeSet

namespace StreamEditor
namespace Unicode

namespace Packed

/-- The numbers behind the letters; `high` is the value of the capitals read since the last
complete number. -/
def numbersFrom (high : Nat) : List Char → List Nat
  | [] => []
  | c :: cs =>
    if c.isUpper then numbersFrom (high * 26 + (c.toNat - 'A'.toNat)) cs
    else (high * 26 + (c.toNat - 'a'.toNat)) :: numbersFrom 0 cs

/-- The numbers that a packed text holds. -/
def numbers (text : String) : List Nat :=
  numbersFrom 0 text.toList

/-- Intervals from gaps and lengths, where `next` is the first code not yet passed and a length
of 0 means a single code. -/
def intervalsFrom : Nat → List Nat → List Interval
  | next, gap :: more :: rest =>
    let lo := next + gap
    ⟨lo, lo + more⟩ :: intervalsFrom (lo + more + 1) rest
  | _, _ => []

/-- The set that a packed text holds. -/
def codeSet (text : String) : CodeSet :=
  ⟨intervalsFrom 0 (numbers text)⟩

/-- Intervals with the number of the part they belong to. -/
def runsFrom : Nat → List Nat → List (Interval × Nat)
  | next, gap :: more :: part :: rest =>
    let lo := next + gap
    (⟨lo, lo + more⟩, part) :: runsFrom (lo + more + 1) rest
  | _, _ => []

/-- The runs that a packed text holds. -/
def runs (text : String) : List (Interval × Nat) :=
  runsFrom 0 (numbers text)

/-- Cuts a list into blocks, each headed by its size; `left` more numbers complete `block`. -/
def blocksFrom : Nat → List Nat → List Nat → List (List Nat)
  | 0, block, [] => [block.reverse]
  | 0, block, n :: rest => block.reverse :: blocksFrom n [] rest
  | _ + 1, block, [] => [block.reverse]
  | left + 1, block, n :: rest => blocksFrom left (n :: block) rest

/-- The blocks of a list in which each is headed by its size. -/
def blocks : List Nat → List (List Nat)
  | [] => []
  | n :: rest => blocksFrom n [] rest

/-- The words of a text, parted by blanks. -/
def words (text : String) : List String :=
  text.splitOn " "

end Packed

/-- A partition of code points: the names of its parts, and the runs of codes with the number
of the part they belong to. -/
structure Partition where
  names : List String
  runs : List (Interval × Nat)

namespace Partition

/-- The code points of the part with a given name. -/
def members (p : Partition) (name : String) : CodeSet :=
  let part := p.names.idxOf name
  CodeSet.ofIntervals ((p.runs.filter fun run => run.2 == part).map Prod.fst)

end Partition

end Unicode
end StreamEditor
