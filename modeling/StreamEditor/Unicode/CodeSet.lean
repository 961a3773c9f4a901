/-
# Sets of codes

A set of codes (code points of characters, or bytes) as a list of inclusive intervals. The
operations answer in a normal form: ascending intervals with a gap between any two, so that an
empty set has no interval and the size of the list measures the set.

Key definitions: `CodeSet`, `CodeSet.mem`, `CodeSet.union`, `CodeSet.compl`, `CodeSet.inter`,
`CodeSet.diff`, `CodeSet.symmDiff`.
-/
namespace StreamEditor

/-- The codes from `lo` to `hi`, both included. -/
structure Interval where
  lo : Nat
  hi : Nat
  deriving DecidableEq, Repr, Inhabited

namespace Interval

/-- Whether a code lies in the interval. -/
def mem (i : Interval) (c : Nat) : Bool :=
  decide (i.lo ≤ c) && decide (c ≤ i.hi)

end Interval

/-- A set of codes, the union of its intervals. -/
structure CodeSet where
  intervals : List Interval
  deriving DecidableEq, Repr, Inhabited

namespace CodeSet

/-- Whether a code belongs to the set. -/
def mem (s : CodeSet) (c : Nat) : Bool :=
  s.intervals.any (·.mem c)

/-- The set without members. -/
def empty : CodeSet := ⟨[]⟩

/-- The set with one member. -/
def single (c : Nat) : CodeSet := ⟨[⟨c, c⟩]⟩

/-- Joins intervals in ascending order of their lower ends wherever two touch or overlap. -/
def joined : List Interval → List Interval
  | [] => []
  | i :: is =>
    match joined is with
    | [] => [i]
    | j :: js => if j.lo ≤ i.hi + 1 then ⟨i.lo, max i.hi j.hi⟩ :: js else i :: j :: js

/-- The set of the codes in any of the intervals, in normal form. -/
def ofIntervals (is : List Interval) : CodeSet :=
  let nonempty := is.filter fun i => decide (i.lo ≤ i.hi)
  ⟨joined (nonempty.mergeSort fun a b => decide (a.lo ≤ b.lo))⟩

/-- The set of the codes in a list. -/
def ofList (cs : List Nat) : CodeSet :=
  ofIntervals (cs.map fun c => ⟨c, c⟩)

/-- The codes in either set. -/
def union (s t : CodeSet) : CodeSet :=
  ofIntervals (s.intervals ++ t.intervals)

/-- The codes in any of the sets. -/
def unions (ss : List CodeSet) : CodeSet :=
  ofIntervals (ss.flatMap intervals)

/-- The codes from `next` to `last` that lie in none of the ascending intervals. -/
def gaps (last : Nat) : Nat → List Interval → List Interval
  | next, [] => if next ≤ last then [⟨next, last⟩] else []
  | next, i :: is =>
    if next < i.lo then ⟨next, i.lo - 1⟩ :: gaps last (i.hi + 1) is
    else gaps last (max next (i.hi + 1)) is

/-- The codes up to `last` outside the set. -/
def compl (last : Nat) (s : CodeSet) : CodeSet :=
  ⟨gaps last 0 (ofIntervals s.intervals).intervals⟩

/-- The highest code of a set, or 0. -/
def bound (s : CodeSet) : Nat :=
  s.intervals.foldl (fun m i => max m i.hi) 0

/-- The codes in both sets. -/
def inter (s t : CodeSet) : CodeSet :=
  let last := max s.bound t.bound
  ((s.compl last).union (t.compl last)).compl last

/-- The codes in the first set and not in the second. -/
def diff (s t : CodeSet) : CodeSet :=
  s.inter (t.compl s.bound)

/-- The codes in exactly one of the sets. -/
def symmDiff (s t : CodeSet) : CodeSet :=
  (s.union t).diff (s.inter t)

end CodeSet
end StreamEditor
