/-
# Fields parted by a character

A text with `n` separators has `n + 1` fields, of which any may be empty.

Key definitions: `Fields.split`, `Fields.join`.
-/
namespace StreamEditor
namespace Fields

/-- The fields of a text that `sep` parts. -/
def split (sep : Char) : List Char → List (List Char)
  | [] => [[]]
  | c :: cs =>
    if c == sep then [] :: split sep cs
    else
      match split sep cs with
      | [] => [[c]]
      | f :: fs => (c :: f) :: fs

/-- The text with given fields. -/
def join (sep : Char) : List (List Char) → List Char
  | [] => []
  | [f] => f
  | f :: fs => f ++ sep :: join sep fs

/-- A text has at least one field. -/
theorem split_ne_nil (sep : Char) (cs : List Char) : split sep cs ≠ [] := by
  cases cs with
  | nil => simp [split]
  | cons c cs =>
    simp only [split]
    split
    · simp
    · split <;> simp

/-- Joined again, the fields of a text are the text. -/
theorem join_split (sep : Char) (cs : List Char) : join sep (split sep cs) = cs := by
  induction cs with
  | nil => rfl
  | cons c cs ih =>
    simp only [split]
    by_cases h : c == sep
    · rw [if_pos h]
      have hc : c = sep := by simpa using h
      cases hs : split sep cs with
      | nil => exact absurd hs (split_ne_nil sep cs)
      | cons f fs => simp [join, ← hs, ih, hc]
    · rw [if_neg h]
      cases hs : split sep cs with
      | nil => exact absurd hs (split_ne_nil sep cs)
      | cons f fs =>
        rw [hs] at ih
        cases fs with
        | nil => simpa [join] using ih
        | cons g gs => simpa [join] using ih

/-- A text has one field more than it has separators. -/
theorem length_split (sep : Char) (cs : List Char) :
    (split sep cs).length = cs.count sep + 1 := by
  induction cs with
  | nil => simp [split]
  | cons c cs ih =>
    simp only [split]
    by_cases h : c == sep
    · rw [if_pos h]
      simp [ih, List.count_cons, h]
    · rw [if_neg h]
      cases hs : split sep cs with
      | nil => exact absurd hs (split_ne_nil sep cs)
      | cons f fs =>
        rw [hs] at ih
        simp only [List.length_cons] at ih ⊢
        rw [List.count_cons, ih]
        simp [h]

end Fields
end StreamEditor
