/-
# The meaning of patterns

An expression says what a pattern matches, with all flags applied: sets of characters or of
single bytes, conditions on the place between two bytes, sequences, choices in order of
preference, repetitions and numbered groups. A character is matched by its bytes in UTF-8, so
bytes that encode no character are matched by sets of bytes alone.

Key definitions: `Regex.Look`, `Regex.Expr`, `Regex.Expr.minSize`, `Regex.Expr.weight`.
-/
import StreamEditor.Unicode.CodeSet

namespace StreamEditor
namespace Regex

/-- What counts as a part of a word: any character that words are made of, or ASCII alone. -/
inductive WordKind where
  | unicode
  | ascii
  deriving DecidableEq, Repr

/-- The conditions on a place between two bytes. -/
inductive Look where
  | textStart
  | textEnd
  | lineStart
  | lineEnd
  | lineStartCrlf
  | lineEndCrlf
  | wordBoundary (kind : WordKind)
  | notWordBoundary (kind : WordKind)
  | wordStart (kind : WordKind)
  | wordEnd (kind : WordKind)
  | wordStartHalf (kind : WordKind)
  | wordEndHalf (kind : WordKind)
  deriving DecidableEq, Repr

/-- What a pattern matches. In a choice the first branch is preferred; a repetition prefers
more rounds if it is greedy and fewer if not, and has no upper bound if `hi` is `none`. -/
inductive Expr where
  | empty
  | chars (set : CodeSet)
  | bytes (set : CodeSet)
  | look (l : Look)
  | seq (first second : Expr)
  | alt (first second : Expr)
  | rounds (lo : Nat) (hi : Option Nat) (greedy : Bool) (sub : Expr)
  | group (index : Nat) (sub : Expr)
  deriving Repr

namespace Expr

/-- A bound below which no match is: every match has at least this many bytes. -/
def minSize : Expr → Nat
  | .empty => 0
  | .chars _ => 1
  | .bytes _ => 1
  | .look _ => 0
  | .seq a b => a.minSize + b.minSize
  | .alt a b => min a.minSize b.minSize
  | .rounds lo _ _ sub => lo * sub.minSize
  | .group _ sub => sub.minSize

/-- Whether the expression is made of parts that match nothing but empty text. -/
def isEmptyOnly : Expr → Bool
  | .empty => true
  | .chars _ => false
  | .bytes _ => false
  | .look _ => true
  | .seq a b => a.isEmptyOnly && b.isEmptyOnly
  | .alt a b => a.isEmptyOnly && b.isEmptyOnly
  | .rounds _ _ _ sub => sub.isEmptyOnly
  | .group _ sub => sub.isEmptyOnly

/-- A repetition. Empty text repeated is no more than empty text once, and a repetition of at
most no round is empty text, whatever it repeats. -/
def repeating (lo : Nat) (hi : Option Nat) (greedy : Bool) (sub : Expr) : Expr :=
  let (lo, hi) := if sub.isEmptyOnly then (min lo 1, some (min (hi.getD 1) 1)) else (lo, hi)
  match lo, hi with
  | 0, some 0 => .empty
  | 1, some 1 => sub
  | lo, hi => .rounds lo hi greedy sub

/-- The bytes that a state of a matching machine takes. -/
def stateWeight : Nat := 32

/-- About how many bytes the states of a machine that matches one of the characters take: a
state for each byte of a single character, and for larger sets some for each interval. -/
def charsWeight (set : CodeSet) : Nat :=
  match set.intervals with
  | [] => stateWeight
  | [i] =>
    if i.lo == i.hi then stateWeight * (if i.lo < 0x80 then 1 else if i.lo < 0x800 then 2 else 3)
    else if i.hi < 0x80 then stateWeight
    else stateWeight * 12
  | is => is.foldl (fun n i => n + (if i.hi < 0x80 then 8 else 80)) stateWeight

/-- About how many bytes a machine that matches the expression takes. -/
def weight : Expr → Nat
  | .empty => 0
  | .chars set => charsWeight set
  | .bytes set => stateWeight + 8 * set.intervals.length
  | .look _ => stateWeight
  | .seq a b => a.weight + b.weight
  | .alt a b => a.weight + b.weight + stateWeight
  | .rounds lo hi _ sub => (max 1 (max lo (hi.getD 0))) * (sub.weight + stateWeight)
  | .group _ sub => sub.weight + 2 * stateWeight

end Expr
end Regex
end StreamEditor
