/-
# Similar words

How alike two words are, from 0 to 1: the mean of the parts of either word that have a match in the
other and of the matches that stand in order. Two equal characters match if they are less than half
the longer word apart. A word is suggested for another if they are more than 0.7 alike.

Key definitions: `Similarity.matched`, `Similarity.score`, `Similarity.closest`.
-/
namespace StreamEditor
namespace Similarity

/-- Marks the first character equal to `c` that is not marked, between the places `least` and
`bound`; `place` is the place of the first one. -/
def mark (c : Char) (least bound : Nat) : Nat → List (Char × Bool) → Option (List (Char × Bool))
  | _, [] => none
  | place, (d, taken) :: rest =>
    if bound ≤ place then none
    else if least ≤ place && c == d && !taken then some ((d, true) :: rest)
    else (mark c least bound (place + 1) rest).map ((d, taken) :: ·)

/-- The characters of a word that have a match in another, and that other with the matches marked;
`place` is the place of the first character. -/
def matchFrom (reach : Nat) : Nat → List Char → List (Char × Bool) → List Char × List (Char × Bool)
  | _, [], other => ([], other)
  | place, c :: cs, other =>
    match mark c (place - reach) (place + reach + 1) 0 other with
    | some other =>
      let (matched, other) := matchFrom reach (place + 1) cs other
      (c :: matched, other)
    | none => matchFrom reach (place + 1) cs other

/-- The characters of two words that match each other, each in the order of its word. -/
def matched (a b : List Char) : List Char × List Char :=
  let (left, marked) := matchFrom (max a.length b.length / 2 - 1) 0 a (b.map fun c => (c, false))
  (left, (marked.filter (·.2)).map (·.1))

/-- How alike two words are. -/
def score (a b : List Char) : Float :=
  let (left, right) := matched a b
  if a.isEmpty && b.isEmpty then 1
  else if left.isEmpty then 0
  else
    let swaps := ((left.zip right).filter fun (c, d) => c != d).length / 2
    let n := Float.ofNat left.length
    (n / Float.ofNat a.length + n / Float.ofNat b.length +
      Float.ofNat (left.length - swaps) / n) / 3.0

/-- The word most like another, if one is enough like it; of two as much like it the later one. -/
def closest (word : String) (words : List String) : Option String :=
  let best := words.foldl
    (fun (best : Float × Option String) w =>
      let s := score word.toList w.toList
      if s > 0.7 && s ≥ best.1 then (s, some w) else best)
    (0, none)
  best.2

end Similarity
end StreamEditor
