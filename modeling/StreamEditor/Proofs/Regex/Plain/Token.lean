/-
# What a plain pattern is read by, piece by piece

An escape sequence, a counted repetition or a character that stands for itself holds no delimiter
that the scans would take for one, so a cursor that reads it advances. Where it cannot be read, the
fault is no unclosed group or class.

Key theorems: `Regex.Escape.read_reads`, `Regex.Tree.readCounts_read`.
-/
import StreamEditor.Proofs.Regex.Plain

namespace StreamEditor
namespace Regex

open Cursor SyntaxError

variable {inClass : Bool} {start c : Cursor}

theorem not_special_of {p : Char → Bool} (hp : (special inClass).any p = false) {ch : Char}
    (hch : p ch = true) : ch ∉ special inClass :=
  fun hspecial => List.any_eq_false.mp hp ch hspecial hch

/-! ### Escape sequences -/

namespace Escape

theorem isHexDigit_special (inClass : Bool) : (special inClass).any isHexDigit = false := by
  cases inClass <;> decide

theorem isBoundaryLetter_special (inClass : Bool) :
    (special inClass).any isBoundaryLetter = false := by
  cases inClass <;> decide

theorem not_special_brace (inClass : Bool) : '{' ∉ special inClass ∧ '}' ∉ special inClass := by
  cases inClass <;> decide

theorem readDigits_reads (n : Nat) (digits : List Char) (h : start.Advances inClass c) :
    start.Reads Closed inClass (readDigits n digits c) := by
  fun_induction readDigits n digits c with
  | case1 => exact h
  | case2 => exact rfl
  | case3 n digits c ch cs hrest hch ih =>
    exact ih (h.next hrest (not_special_of (isHexDigit_special inClass) hch))
  | case4 => exact rfl

theorem readHexFixed_reads (at_ : Position) (count : Nat) (asByte : Bool)
    (h : start.Advances inClass c) :
    start.Reads Closed inClass (readHexFixed at_ count asByte c) := by
  refine (readDigits_reads count [] h).bind fun digits hdigits => ?_
  dsimp only
  split
  · exact hdigits
  · exact rfl

theorem readHexBraced_reads (at_ : Position) {cs : List Char} (h : start.Advances inClass c)
    (hrest : c.rest = '{' :: cs) : start.Reads Closed inClass (readHexBraced at_ c) := by
  have hdigits := (h.next hrest (not_special_brace inClass).1).takeSpaced
    (isHexDigit_special inClass)
  unfold readHexBraced
  dsimp only
  split
  · exact rfl
  · rename_i ch cs' hrest'
    split
    · exact rfl
    · rename_i hbrace
      have hbrace : ch = '}' := by simpa using hbrace
      rw [hbrace] at hrest'
      have hafter := hdigits.next hrest' (not_special_brace inClass).2
      split
      · exact rfl
      · split
        · exact hafter
        · exact rfl

/-- The cursor is behind the letter. -/
theorem readHex_reads (at_ : Position) (letter : Char) (h : start.Advances inClass c.bump) :
    start.Reads Closed inClass (readHex at_ letter c) := by
  have hnext : start.Advances inClass c.next := by
    rw [Cursor.next, h.plain.skip_eq]
    exact h
  unfold readHex
  dsimp only
  split
  · exact rfl
  · rename_i ch cs hrest
    split
    · rename_i hbrace
      rw [beq_iff_eq.mp hbrace] at hrest
      exact readHexBraced_reads at_ hnext hrest
    · exact readHexFixed_reads at_ _ _ hnext

theorem readBoundary_reads (at_ : Position) {cs : List Char} (h : start.Advances inClass c)
    (hrest : c.rest = '{' :: cs) : start.Reads Closed inClass (readBoundary at_ c) := by
  have hinside := h.next hrest (not_special_brace inClass).1
  unfold readBoundary
  dsimp only
  split
  · exact rfl
  · rename_i ch cs' hrest'
    split
    · exact h
    · have hname := hinside.takeSpaced (isBoundaryLetter_special inClass)
      split
      · exact rfl
      · rename_i hbrace
        obtain ⟨cs'', hrest''⟩ := List.head?_eq_some_iff.mp (by simpa using hbrace)
        split
        · exact hname.bump hrest'' (not_special_brace inClass).2
        · exact rfl

/-- The cursor is behind the backslash, at the letter. -/
theorem readUnicodeClass_reads (at_ : Position) (letter : Char) {ch : Char} {cs : List Char}
    (hrest : c.rest = ch :: cs) (hname : plainName inClass cs = true)
    (h : start.Advances inClass c.bump) :
    start.Reads Closed inClass (readUnicodeClass at_ letter c) := by
  have hnext : c.next = c.bump := by rw [Cursor.next, h.plain.skip_eq]
  unfold readUnicodeClass
  dsimp only
  rw [hnext]
  split
  · exact rfl
  · rename_i first more hmore
    rw [← bump_rest hrest, hmore] at hname
    split
    · rename_i hbrace
      rw [beq_iff_eq.mp hbrace] at hmore hname
      have hinside := h.next hmore (not_special_brace inClass).1
      have hinsideRest : c.bump.next.rest = more := by rw [h.plain.next_eq, bump_rest hmore]
      have htaken := hinside.takeSpaced_of_takeWhile (p := (· != '}')) fun ch hmem => by
        rw [hinsideRest] at hmem
        simpa using List.all_eq_true.mp hname ch hmem
      have hend := hinside.plain.takeSpaced_rest (p := (· != '}'))
      split
      · exact rfl
      · rename_i last behind hlast
        rw [hlast] at hend
        have hclosing : last = '}' := by
          have hstops := List.head?_dropWhile_not (· != '}') c.bump.next.rest
          rw [← hend] at hstops
          simpa using hstops
        rw [hclosing] at hlast
        exact htaken.bump hlast (not_special_brace inClass).2
    · rename_i hbrace
      split
      · exact rfl
      · have hfirst : first ∉ special inClass := by
          rw [plainName] at hname
          · simpa using hname
          · exact fun heq => hbrace (beq_iff_eq.mpr heq)
        exact h.next hmore hfirst

/-- **An escape sequence is read.** -/
theorem read_reads {cs : List Char} (h : c.Plain inClass) (hrest : c.rest = '\\' :: cs) :
    c.Reads Closed inClass (read c) := by
  have hbump := bump_rest hrest
  unfold read
  dsimp only
  split
  · exact rfl
  · rename_i ch cs' hrest'
    rw [hbump] at hrest'
    rw [hrest'] at hrest
    have hafter := h.advances_escape hrest
    have htext := h.text
    rw [hrest, plainFrom_escape] at htext
    split
    · exact rfl
    split
    · exact readHex_reads _ _ hafter
    split
    · rename_i hletter
      have hname := htext.1 (by simpa using hletter)
      exact readUnicodeClass_reads _ _ (bump_rest hrest) hname hafter
    split
    · exact hafter
    split
    · exact hafter
    split
    · exact hafter
    split
    · split
      · rename_i hbrace
        obtain ⟨cs'', hrest''⟩ := rest_of_head? hbrace
        exact readBoundary_reads _ hafter hrest''
      · exact hafter
    split
    · exact hafter
    · exact rfl

end Escape

/-! ### Repetitions -/

namespace Tree

theorem isDigit_special (inClass : Bool) : (special inClass).any Char.isDigit = false := by
  cases inClass <;> decide

theorem isBlank_special (inClass : Bool) : (special inClass).any isBlank = false := by
  cases inClass <;> decide

theorem dropBlanks_advances (h : start.Advances inClass c) :
    start.Advances inClass c.dropBlanks := by
  obtain ⟨rest, pos, verbose⟩ := c
  unfold dropBlanks
  dsimp only
  fun_induction dropBlanksFrom rest pos with
  | case1 => exact h
  | case2 ch cs pos hch ih =>
    exact ih (h.bump rfl (not_special_of (isBlank_special inClass) hch))
  | case3 => exact h

theorem readCount_advances (h : start.Advances inClass c) :
    start.Advances inClass (readCount c).2 := by
  have hafter := ((dropBlanks_advances h).takeSpaced (isDigit_special inClass)).takeSpaced
    (isBlank_special inClass)
  unfold readCount
  dsimp only
  split
  · exact hafter
  · split <;> exact hafter

theorem readCount_ends (c : Cursor) :
    Result.Ends (fun _ => True) Closed (readCount c).1 := by
  unfold readCount
  dsimp only
  split
  · exact rfl
  · split
    · trivial
    · exact rfl

/-- What reading counts comes to: it stops at a closing brace ahead. -/
def CountsRead (c : Cursor) : Except SyntaxError (RepeatRange × Cursor) → Prop :=
  Result.Ends (fun read => c.Advances false read.2 ∧ ∃ cs, read.2.rest = '}' :: cs) Closed

theorem countsRead_end (at_ : Position) (range : RepeatRange) (h : start.Advances false c) :
    CountsRead start (if c.rest.head? == some '}' then .ok (range, c)
      else fail .repetitionCountUnclosed ⟨at_, c.pos⟩) := by
  split
  · rename_i hbrace
    exact ⟨h, rest_of_head? hbrace⟩
  · exact rfl

theorem readCounts_read {cs : List Char} (h : c.Plain false) (hrest : c.rest = '{' :: cs) :
    CountsRead c (readCounts c) := by
  have hinside : c.Advances false c.next := by
    rw [h.next_eq]
    exact h.advances_bump hrest (by decide)
  have hlo := readCount_advances hinside
  have hloEnds := readCount_ends c.next
  unfold readCounts
  dsimp only
  generalize readCount c.next = lo at hlo hloEnds ⊢
  split
  · exact rfl
  · split
    · exact rfl
    · split
      · rename_i hcomma
        obtain ⟨cs', hrest'⟩ := rest_of_head? hcomma
        have hafter := hlo.next hrest' (by decide)
        have hhi := readCount_advances hafter
        have hhiEnds := readCount_ends lo.2.next
        generalize readCount lo.2.next = hi at hhi hhiEnds ⊢
        split
        · exact rfl
        · split
          · refine hloEnds.bind fun n _ => ?_
            rw [pure_bind]
            exact countsRead_end c.pos (.atLeast n) hafter
          · refine hloEnds.bind fun n _ => hhiEnds.bind fun m _ => ?_
            rw [pure_bind]
            exact countsRead_end c.pos (.between n m) hhi
      · refine hloEnds.bind fun n _ => ?_
        rw [pure_bind]
        exact countsRead_end c.pos (.exactly n) hlo

end Tree
end Regex
end StreamEditor
