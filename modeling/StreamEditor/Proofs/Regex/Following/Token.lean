/-
# Escape sequences and counts beside the scan

An escape sequence is read to a cursor that follows, whatever is between its braces. If the reader
does not recognize it then the scan does not know it, since all that the scan knows is recognized. A
counted repetition holds no backslash.

Key theorems: `Regex.Escape.read_yields`, `Regex.Tree.readCounts_lead`.
-/
import StreamEditor.Proofs.Regex.Following

namespace StreamEditor
namespace Regex

open Cursor SyntaxError

variable {pattern : List Char} {start c : Cursor} {ch : Char} {cs : List Char}

/-! ### Escape sequences -/

namespace Escape

theorem readDigits_leads (n : Nat) (digits : List Char) (h : c.Follows pattern start) :
    Leads pattern start (readDigits n digits c) := by
  fun_induction readDigits n digits c with
  | case1 => exact h
  | case2 => exact trivial
  | case3 n digits c ch cs hrest hch ih =>
    exact ih (h.toWithin.next hrest (ne_backslash (by decide) hch))
  | case4 => exact trivial

theorem readHexFixed_yields (at_ : Position) (count : Nat) (asByte : Bool)
    (h : c.Follows pattern start) : Yields pattern start (readHexFixed at_ count asByte c) := by
  refine (readDigits_leads count [] h).bind fun digits hdigits => ?_
  dsimp only
  split
  · exact ⟨rfl, hdigits⟩
  · exact trivial

theorem readHexBraced_yields (at_ : Position) (h : c.Follows pattern start)
    (hrest : c.rest = '{' :: cs) : Yields pattern start (readHexBraced at_ c) := by
  have hdigits := (h.toWithin.next hrest (by decide)).takeSpaced
    (show isHexDigit '\\' = false by decide)
  unfold readHexBraced
  dsimp only
  split
  · exact trivial
  · rename_i ch cs' hrest'
    split
    · exact trivial
    · rename_i hbrace
      have hafter := hdigits.toWithin.next hrest' (by rintro rfl; exact hbrace (by decide))
      split
      · exact trivial
      · split
        · exact ⟨rfl, hafter⟩
        · exact trivial

/-- The cursor is behind the letter. -/
theorem readHex_yields (at_ : Position) (letter : Char) (h : c.bump.Follows pattern start) :
    Yields pattern start (readHex at_ letter c) := by
  have hnext : c.next.Follows pattern start := h.skip
  unfold readHex
  dsimp only
  split
  · exact trivial
  · rename_i ch cs hrest
    split
    · rename_i hbrace
      rw [beq_iff_eq.mp hbrace] at hrest
      exact readHexBraced_yields at_ hnext hrest
    · exact readHexFixed_yields at_ _ _ hnext

/-- Between the braces there may be backslashes, but the cursor stops behind the closing brace. -/
theorem readUnicodeClass_yields (at_ : Position) (letter : Char)
    (h : c.bump.Follows pattern start) :
    Yields pattern start (readUnicodeClass at_ letter c) := by
  have hnext : c.next.Follows pattern start := h.skip
  unfold readUnicodeClass
  dsimp only
  split
  · exact trivial
  · rename_i first more hmore
    split
    · rename_i hbrace
      rw [beq_iff_eq.mp hbrace] at hmore
      obtain ⟨hinside, hstops⟩ :=
        (hnext.toWithin.next hmore (by decide)).toWithin.takeSpaced (p := (· != '}'))
      split
      · exact trivial
      · rename_i last behind hlast
        have hclosing : last = '}' := bne_eq_false_iff_eq.mp (hstops last behind hlast)
        exact ⟨rfl, hinside.follows_bump hlast (by rw [hclosing]; decide)⟩
    · split
      · exact trivial
      · rename_i hbackslash
        exact ⟨rfl, hnext.toWithin.next hmore fun heq => hbackslash (beq_iff_eq.mpr heq)⟩

theorem readBoundary_yields (at_ : Position) (h : c.Follows pattern start)
    (hrest : c.rest = '{' :: cs) : Yields pattern start (readBoundary at_ c) := by
  have hinside := h.toWithin.next hrest (by decide)
  unfold readBoundary
  dsimp only
  split
  · exact trivial
  · split
    · exact ⟨rfl, h⟩
    · have hname := hinside.takeSpaced (show isBoundaryLetter '\\' = false by decide)
      split
      · exact trivial
      · rename_i hbrace
        obtain ⟨cs', hrest'⟩ := List.head?_eq_some_iff.mp (by simpa using hbrace)
        split
        · exact ⟨rfl, hname.toWithin.follows_bump hrest' (by decide)⟩
        · exact trivial

/-- Whether a backslash before a character is taken for more than an escape sequence that is not
recognized. -/
def recognizes (ch : Char) : Bool :=
  ch.isDigit || (ch == 'x' || ch == 'u' || ch == 'U') || (ch == 'p' || ch == 'P') ||
    (shortOf? ch).isSome || standsForItself ch || (controlOf? ch).isSome || ch == 'b' ||
    (assertionOf? ch).isSome

theorem recognizes_of_isPunctuation (h : isPunctuation ch = true) : recognizes ch = true := by
  simp only [isPunctuation, Bool.and_eq_true, decide_eq_true_eq, Bool.not_eq_true'] at h
  obtain ⟨⟨-, hascii⟩, hother⟩ := h
  have hascii : ch.toNat < 128 := Nat.lt_succ_of_lt hascii
  by_cases hless : ch = '<'
  · rw [hless]
    decide
  by_cases hgreater : ch = '>'
  · rw [hgreater]
    decide
  simp [recognizes, standsForItself, hascii, hother, hless, hgreater]

/-- What the scan knows is recognized. -/
theorem recognizes_of_isKnownEscape (h : isKnownEscape ch = true) : recognizes ch = true := by
  rcases Bool.or_eq_true_iff.mp h with hletter | hpunctuation
  · have hletters : "ntrfva01234567xuUpPwWdDsSbBAz".toList.all recognizes = true := by decide
    exact List.all_eq_true.mp hletters ch (List.contains_iff_mem.mp hletter)
  · exact recognizes_of_isPunctuation hpunctuation

/-- The reader stands where the scan looks for an escape sequence. -/
theorem looksUnknown_of_rest (h : c.Follows pattern start) (hrest : c.rest = '\\' :: ch :: cs)
    (hunknown : isKnownEscape ch = false) : LooksUnknown pattern c.pos.offset := by
  have hsettled := h.settled.resolve_left (by rw [hrest]; exact List.cons_ne_nil _ _)
  refine ⟨hsettled, h.toWithin.getElem?_offset hrest, ?_⟩
  rw [← bump_offset hrest, h.toWithin.bump.getElem?_offset (bump_rest hrest), Option.any_some,
    hunknown]
  rfl

/-- **An escape sequence is read to a cursor that follows,** or the scan does not know it. -/
theorem read_yields (h : c.Follows pattern start) (hrest : c.rest = '\\' :: cs) :
    Yields pattern start (read c) := by
  have hbump := bump_rest hrest
  unfold read
  dsimp only
  split
  · exact trivial
  · rename_i ch cs' hrest'
    rw [hbump] at hrest'
    rw [hrest'] at hrest
    have hafter := h.escape hrest
    split
    · exact trivial
    rename_i hdigit
    split
    · exact readHex_yields _ _ hafter
    rename_i hhex
    split
    · exact readUnicodeClass_yields _ _ hafter
    rename_i hclass
    split
    · exact ⟨rfl, hafter⟩
    rename_i hshort
    split
    · exact ⟨rfl, hafter⟩
    rename_i hitself
    split
    · exact ⟨rfl, hafter⟩
    rename_i hcontrol
    split
    · split
      · rename_i hbrace
        obtain ⟨cs'', hrest''⟩ := rest_of_head? hbrace
        exact readBoundary_yields _ hafter hrest''
      · exact ⟨rfl, hafter⟩
    rename_i hboundary
    split
    · exact ⟨rfl, hafter⟩
    rename_i hassertion
    refine ⟨looksUnknown_of_rest h hrest (eq_false_of_ne_true fun hknown => ?_), ?_⟩
    · have hrecognized := recognizes_of_isKnownEscape hknown
      simp [recognizes, hdigit, hhex, hclass, hshort, hitself, hcontrol, hboundary,
        hassertion] at hrecognized
    · rw [bump_offset (bump_rest hrest), bump_offset hrest]

end Escape

/-! ### Counts -/

namespace Tree

theorem readCount_follows (h : c.Follows pattern start) :
    (readCount c).2.Follows pattern start := by
  have hafter := (h.dropBlanks.takeSpaced (show Char.isDigit '\\' = false by decide)).takeSpaced
    (show isBlank '\\' = false by decide)
  unfold readCount
  dsimp only
  split
  · exact hafter
  · split <;> exact hafter

theorem readCount_blames (pattern : List Char) (c : Cursor) :
    Result.Ends (fun _ => True) (Blames pattern) (readCount c).1 := by
  unfold readCount
  dsimp only
  split
  · exact trivial
  · split <;> exact trivial

/-- What reading counts comes to: a cursor at a closing brace. -/
def CountsLead (pattern : List Char) (start : Cursor) :
    Except SyntaxError (RepeatRange × Cursor) → Prop :=
  Result.Ends (fun read => read.2.Follows pattern start ∧ ∃ cs, read.2.rest = '}' :: cs)
    (Blames pattern)

theorem countsLead_end (at_ : Position) (range : RepeatRange) (h : c.Follows pattern start) :
    CountsLead pattern start (if c.rest.head? == some '}' then .ok (range, c)
      else fail .repetitionCountUnclosed ⟨at_, c.pos⟩) := by
  split
  · rename_i hbrace
    exact ⟨h, rest_of_head? hbrace⟩
  · exact trivial

theorem readCounts_lead (h : c.Follows pattern start) (hrest : c.rest = '{' :: cs) :
    CountsLead pattern start (readCounts c) := by
  have hinside := h.toWithin.next hrest (by decide)
  have hlo := readCount_follows hinside
  have hloEnds := readCount_blames pattern c.next
  unfold readCounts
  dsimp only
  generalize readCount c.next = lo at hlo hloEnds ⊢
  split
  · exact trivial
  split
  · exact trivial
  split
  · rename_i hcomma
    obtain ⟨cs', hrest'⟩ := rest_of_head? hcomma
    have hafter := hlo.toWithin.next hrest' (by decide)
    have hhi := readCount_follows hafter
    have hhiEnds := readCount_blames pattern lo.2.next
    generalize readCount lo.2.next = hi at hhi hhiEnds ⊢
    split
    · exact trivial
    split
    · refine hloEnds.bind fun n _ => ?_
      rw [pure_bind]
      exact countsLead_end c.pos (.atLeast n) hafter
    · refine hloEnds.bind fun n _ => hhiEnds.bind fun m _ => ?_
      rw [pure_bind]
      exact countsLead_end c.pos (.between n m) hhi
  · refine hloEnds.bind fun n _ => ?_
    rw [pure_bind]
    exact countsLead_end c.pos (.exactly n) hlo

end Tree
end Regex
end StreamEditor
