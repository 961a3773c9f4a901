/-
# A reading of a pattern beside the scan for an escape sequence

The scan for an escape sequence takes a backslash with the character behind it, wherever the two
stand. So does the reader of patterns, except where it passes over a text without looking at what is
in it: a comment, or the name of a class. It comes out of both behind a character that is no
backslash, so the cursor never rests between the two that the scan takes together, and an escape
sequence that is refused begins where the scan looks for one.

Key definitions: `Regex.Cursor.Within`, `Regex.Cursor.Follows`, `Regex.SyntaxError.Blames`,
`Regex.Cursor.Leads`, `Regex.Cursor.Yields`.
Key theorems: `Regex.Cursor.Within.follows_bump`, `Regex.Cursor.Follows.escape`,
`Regex.Cursor.Follows.skip`.
-/
import StreamEditor.Proofs.Regex.Plain
import StreamEditor.Proofs.Regex.Scans

namespace StreamEditor
namespace Regex

/-! ### Cursors in a pattern -/

namespace Cursor

/-- A cursor in a pattern that is not before the one it started from, and to which blanks count as
they did to that one. -/
structure Within (pattern : List Char) (c start : Cursor) : Prop where
  rest : c.rest = pattern.drop c.pos.offset
  ahead : start.pos.offset ≤ c.pos.offset
  mode : c.verbose = start.verbose

/-- Such a cursor that does not stand between a backslash and the character it takes with it. At the
end of the pattern it does not matter. -/
structure Follows (pattern : List Char) (c start : Cursor) : Prop
    extends Within pattern c start where
  settled : c.rest = [] ∨ waiting (pattern.take c.pos.offset) = false

variable {pattern : List Char} {start c d : Cursor} {ch : Char} {cs : List Char}

theorem follows_ofPattern (pattern : List Char) :
    (ofPattern pattern).Follows pattern (ofPattern pattern) :=
  ⟨⟨rfl, Nat.le_refl _, rfl⟩, .inr rfl⟩

theorem Within.from_here (h : c.Within pattern start) : c.Within pattern c :=
  ⟨h.rest, Nat.le_refl _, rfl⟩

theorem Follows.from_here (h : c.Follows pattern start) : c.Follows pattern c :=
  ⟨h.toWithin.from_here, h.settled⟩

theorem Within.trans (h : c.Within pattern start) (k : d.Within pattern c) :
    d.Within pattern start :=
  ⟨k.rest, Nat.le_trans h.ahead k.ahead, k.mode.trans h.mode⟩

theorem Within.length_rest (h : c.Within pattern start) :
    c.rest.length = pattern.length - c.pos.offset := by
  rw [h.rest, List.length_drop]

theorem Within.getElem?_offset (h : c.Within pattern start) (hrest : c.rest = ch :: cs) :
    pattern[c.pos.offset]? = some ch := by
  rw [← List.head?_drop, ← h.rest, hrest, List.head?_cons]

/-- What stands before the cursor grows by the character that is passed. -/
theorem Within.take_bump (h : c.Within pattern start) (hrest : c.rest = ch :: cs) :
    pattern.take c.bump.pos.offset = pattern.take c.pos.offset ++ [ch] := by
  rw [bump_offset hrest, List.take_add_one, h.getElem?_offset hrest]
  rfl

theorem Within.bump (h : c.Within pattern start) : c.bump.Within pattern start := by
  cases hrest : c.rest with
  | nil =>
    have hstays : c.bump = c := by rw [Cursor.bump, hrest]
    rw [hstays]
    exact h
  | cons ch cs =>
    refine ⟨?_, ?_, by rw [bump_verbose, h.mode]⟩
    · rw [bump_rest hrest, bump_offset hrest, ← List.tail_drop, ← h.rest, hrest, List.tail_cons]
    · rw [bump_offset hrest]
      exact Nat.le_succ_of_le h.ahead

theorem Within.bump_lt (hrest : c.rest = ch :: cs) (h : d.Within pattern c.bump) :
    c.pos.offset < d.pos.offset := by
  have hahead := h.ahead
  rw [bump_offset hrest] at hahead
  exact hahead

/-- Behind a character that is no backslash the cursor is settled. -/
theorem Within.follows_bump (h : c.Within pattern start) (hrest : c.rest = ch :: cs)
    (hch : ch ≠ '\\') : c.bump.Follows pattern start :=
  ⟨h.bump, .inr (by rw [h.take_bump hrest, waiting_concat_of_ne hch])⟩

/-- So it is behind the character that a backslash takes with it. -/
theorem Follows.escape (h : c.Follows pattern start) (hrest : c.rest = '\\' :: ch :: cs) :
    c.bump.bump.Follows pattern start := by
  refine ⟨h.toWithin.bump.bump, .inr ?_⟩
  rw [h.toWithin.bump.take_bump (bump_rest hrest), h.toWithin.take_bump hrest]
  exact waiting_escape (h.settled.resolve_left (by rw [hrest]; exact List.cons_ne_nil _ _)) ch

theorem ne_backslash {p : Char → Bool} (hp : p '\\' = false) (hch : p ch = true) : ch ≠ '\\' := by
  rintro rfl
  rw [hp] at hch
  cases hch

/-! ### Blanks and comments -/

/-- What is passed over ends behind a character that is no backslash: a comment behind the end of
its line. -/
theorem follows_skipFrom (inComment : Bool) {rest : List Char} {pos : Position} {verbose : Bool}
    (h : Within pattern ⟨rest, pos, verbose⟩ start)
    (hsettled : inComment = false → Follows pattern ⟨rest, pos, verbose⟩ start) :
    Follows pattern
      ⟨(skipFrom inComment rest pos).1, (skipFrom inComment rest pos).2, verbose⟩ start := by
  fun_induction skipFrom inComment rest pos with
  | case1 inComment pos =>
    -- a comment that the pattern ends in may end in a backslash
    exact ⟨h, .inl rfl⟩
  | case2 ch cs pos hblank ih =>
    have hbehind := h.follows_bump rfl (ne_backslash (by decide) hblank)
    exact ih hbehind.toWithin fun _ => hbehind
  | case3 ch cs pos _ hsign ih =>
    exact ih h.bump (by rintro ⟨⟩)
  | case4 ch cs pos => exact hsettled rfl
  | case5 ch cs pos ih =>
    refine ih h.bump fun hend => h.follows_bump rfl ?_
    rw [bne_eq_false_iff_eq.mp hend]
    decide

theorem within_skipFrom (inComment : Bool) {rest : List Char} {pos : Position} {verbose : Bool}
    (h : Within pattern ⟨rest, pos, verbose⟩ start) :
    Within pattern
      ⟨(skipFrom inComment rest pos).1, (skipFrom inComment rest pos).2, verbose⟩ start := by
  fun_induction skipFrom inComment rest pos with
  | case1 => exact h
  | case2 ch cs pos _ ih => exact ih h.bump
  | case3 ch cs pos _ _ ih => exact ih h.bump
  | case4 => exact h
  | case5 ch cs pos ih => exact ih h.bump

theorem Within.skip (h : c.Within pattern start) : c.skip.Within pattern start := by
  unfold Cursor.skip
  split
  · exact within_skipFrom false h
  · exact h

theorem Follows.skip (h : c.Follows pattern start) : c.skip.Follows pattern start := by
  unfold Cursor.skip
  split
  · exact follows_skipFrom false h.toWithin fun _ => h
  · exact h

theorem Within.next (h : c.Within pattern start) (hrest : c.rest = ch :: cs) (hch : ch ≠ '\\') :
    c.next.Follows pattern start :=
  (h.follows_bump hrest hch).skip

theorem Follows.dropBlanks (h : c.Follows pattern start) : c.dropBlanks.Follows pattern start := by
  obtain ⟨rest, pos, verbose⟩ := c
  unfold Cursor.dropBlanks
  dsimp only
  fun_induction dropBlanksFrom rest pos with
  | case1 => exact h
  | case2 ch cs pos hblank ih =>
    exact ih (h.toWithin.follows_bump rfl (ne_backslash (by decide) hblank))
  | case3 => exact h

theorem Follows.takeSpaced {p : Char → Bool} (hp : p '\\' = false) (h : c.Follows pattern start) :
    (c.takeSpaced p).2.Follows pattern start := by
  have hloop : ∀ (fuel : Nat) (taken : List Char) (c : Cursor), c.Follows pattern start →
      (takeSpacedFrom p fuel taken c).2.Follows pattern start := by
    intro fuel taken c h
    fun_induction takeSpacedFrom p fuel taken c with
    | case1 => exact h
    | case2 fuel taken c ch cs hrest hch ih =>
      exact ih (h.toWithin.next hrest (ne_backslash hp hch))
    | case3 => exact h
    | case4 => exact h
  exact hloop c.rest.length [] c h

/-- Characters that are taken whatever they are: the cursor stops at one of another kind, or at the
end of the pattern. -/
theorem Within.takeSpaced {p : Char → Bool} (h : c.Within pattern start) :
    (c.takeSpaced p).2.Within pattern start ∧
      ∀ ch cs, (c.takeSpaced p).2.rest = ch :: cs → p ch = false := by
  have hloop : ∀ (fuel : Nat) (taken : List Char) (c : Cursor), c.Within pattern start →
      c.rest.length ≤ fuel → (takeSpacedFrom p fuel taken c).2.Within pattern start ∧
        ∀ ch cs, (takeSpacedFrom p fuel taken c).2.rest = ch :: cs → p ch = false := by
    intro fuel taken c h hfuel
    fun_induction takeSpacedFrom p fuel taken c with
    | case1 =>
      rw [List.eq_nil_of_length_eq_zero (Nat.le_zero.mp hfuel)]
      exact ⟨h, fun _ _ hrest => by cases hrest⟩
    | case2 fuel taken c ch cs hrest hch ih =>
      have hnext : c.next.Within pattern c.bump := h.bump.from_here.skip
      refine ih (h.bump.trans hnext) ?_
      have hshorter := hnext.length_rest
      have hlonger := h.length_rest
      have hahead := hnext.bump_lt hrest
      rw [hrest, List.length_cons] at hlonger hfuel
      omega
    | case3 fuel taken c ch cs hrest hch =>
      refine ⟨h, fun ch' cs' hrest' => ?_⟩
      rw [hrest] at hrest'
      cases hrest'
      exact eq_false_of_ne_true hch
    | case4 fuel taken c hrest =>
      refine ⟨h, fun _ _ hrest' => ?_⟩
      rw [hrest] at hrest'
      cases hrest'
  exact hloop c.rest.length [] c h (Nat.le_refl _)

end Cursor

/-! ### Faults -/

/-- An operator of repetition at a place where, unless there was a place before that looked so, the
scan too takes it that there is nothing to repeat. -/
structure LacksOperand (pattern : List Char) (i : Nat) : Prop where
  operator : ∃ operator ∈ ['?', '*', '+', '{'], pattern[i]? = some operator
  bare : SeemsRepeated pattern i → EndsBare (pattern.take i)

/-- The scan looks for all of these operators but a count. -/
theorem LacksOperand.looksMissing {pattern : List Char} {i : Nat} (h : LacksOperand pattern i)
    (hbrace : pattern[i]? ≠ some '{') (hseems : SeemsRepeated pattern i) :
    LooksMissing pattern i := by
  obtain ⟨operator, hoperator, hplace⟩ := h.operator
  refine ⟨?_, h.bare hseems⟩
  rw [hplace] at hbrace ⊢
  simp only [List.mem_cons, List.not_mem_nil, or_false] at hoperator
  rcases hoperator with rfl | rfl | rfl | rfl
  · decide
  · decide
  · decide
  · exact absurd rfl hbrace

/-- What the pattern shows where the reader blames an escape sequence or a repetition. -/
def SyntaxError.Blames (pattern : List Char) (e : SyntaxError) : Prop :=
  match e.fault with
  | .escapeUnrecognized =>
    LooksUnknown pattern e.span.start.offset ∧ e.span.stop.offset = e.span.start.offset + 2
  | .repetitionMissing => LacksOperand pattern e.span.start.offset
  | _ => True

/-- What reading comes to: a cursor that follows, or a fault for which the pattern shows what it
should. -/
def Cursor.Leads {α : Type} (pattern : List Char) (start : Cursor) :
    Except SyntaxError (α × Cursor) → Prop :=
  Result.Ends (fun read => read.2.Follows pattern start) (SyntaxError.Blames pattern)

/-- What reading a tree comes to if the tree is one that can be repeated. -/
def Cursor.Yields (pattern : List Char) (start : Cursor) :
    Except SyntaxError (Tree × Cursor) → Prop :=
  Result.Ends (fun read => read.1.isUnrepeatable = false ∧ read.2.Follows pattern start)
    (SyntaxError.Blames pattern)

end Regex
end StreamEditor
