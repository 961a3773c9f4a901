/-
# Classes beside the scan

The scan for an escape sequence knows nothing of classes, nor need it: in a class a backslash takes
the next character with it as it does outside.

Key theorem: `Regex.Bracket.read_yields`.
-/
import StreamEditor.Proofs.Regex.Following.Token
import StreamEditor.Proofs.Regex.Plain.Bracket

namespace StreamEditor
namespace Regex
namespace Bracket

open Cursor SyntaxError

variable {pattern : List Char} {start c d : Cursor} {ch : Char} {cs : List Char}

/-! ### Items -/

theorem partOf_blames (pattern : List Char) (item : Tree) :
    Result.Ends (fun _ => True) (Blames pattern) (partOf item) := by
  unfold partOf
  split <;> exact trivial

theorem boundOf_blames (pattern : List Char) (item : Tree) :
    Result.Ends (fun _ => True) (Blames pattern) (boundOf item) := by
  unfold boundOf
  split <;> exact trivial

theorem readItem_yields (h : c.Follows pattern start) : Yields pattern start (readItem c) := by
  unfold readItem
  split
  · rename_i hescape
    exact Escape.read_yields h hescape
  · rename_i hbackslash hrest
    exact ⟨rfl, h.toWithin.follows_bump hrest hbackslash⟩
  · exact trivial

theorem readRange_leads (opening : Span) (h : c.Follows pattern start) :
    Leads pattern start (readRange opening c) := by
  unfold readRange
  refine (readItem_yields h).bind fun first hfirst => ?_
  have hbehind := hfirst.2.skip
  dsimp only
  split
  · exact trivial
  · rename_i ch cs hrest
    split
    · exact (partOf_blames pattern first.1).bind fun _ _ => hbehind
    · rename_i hhyphen
      have hch : ch = '-' := by
        simp only [Bool.or_eq_true, bne_iff_ne, not_or, Decidable.not_not] at hhyphen
        exact hhyphen.1.1
      have hnext := hbehind.toWithin.next hrest (by rw [hch]; decide)
      split
      · exact trivial
      · refine (readItem_yields hnext).bind fun second hsecond => ?_
        refine (boundOf_blames pattern first.1).bind fun lo _ => ?_
        refine (boundOf_blames pattern second.1).bind fun hi _ => ?_
        split
        · exact hsecond.2
        · exact trivial

/-! ### The beginning of a class -/

theorem hyphens_leads (opening : Position) (fuel : Nat) (items : List ClassSet)
    (h : c.Follows pattern start) : Leads pattern start (hyphens opening fuel items c) := by
  fun_induction hyphens opening fuel items c with
  | case1 => exact h
  | case2 => exact trivial
  | case3 fuel items c cs hrest item _ ih => exact ih (h.toWithin.next hrest (by decide))
  | case4 => exact h

theorem openClass_leads (h : c.Follows pattern start) (hrest : c.rest = '[' :: cs) :
    Leads pattern start (openClass c) := by
  have hinside := h.toWithin.next hrest (by decide)
  have hnegated : (if c.next.rest.head? == some '^' then c.next.next else c.next).Follows
      pattern start := by
    split
    · rename_i hcaret
      obtain ⟨cs', hrest'⟩ := rest_of_head? hcaret
      exact hinside.toWithin.next hrest' (by decide)
    · exact hinside
  unfold openClass
  dsimp only
  generalize (if c.next.rest.head? == some '^' then c.next.next else c.next) = e at hnegated ⊢
  split
  · exact trivial
  split
  · exact trivial
  refine (hyphens_leads c.pos e.rest.length [] hnegated).bind fun read hread => ?_
  split
  · rename_i hliteral
    obtain ⟨cs', hrest'⟩ := rest_of_head? (Bool.and_eq_true_iff.mp hliteral).2
    split
    · exact trivial
    · exact hread.toWithin.next hrest' (by decide)
  · exact hread

theorem within_upToColon {rest : List Char} {pos : Position} {verbose : Bool} (name : List Char)
    (h : Within pattern ⟨rest, pos, verbose⟩ start) :
    Within pattern ⟨(upToColon rest pos name).2.1, (upToColon rest pos name).2.2, verbose⟩
      start := by
  fun_induction upToColon rest pos name with
  | case1 => exact h
  | case2 => exact h
  | case3 ch cs pos name _ ih => exact ih h.bump

/-- A named class ends behind a bracket. -/
theorem readAscii?_follows {read : ClassSet × Cursor} (h : c.Within pattern start)
    (hread : readAscii? c = some read) : read.2.Follows pattern start := by
  unfold readAscii? at hread
  dsimp only at hread
  split at hread
  · cases hread
  have hname : (if c.bump.bump.rest.head? == some '^' then c.bump.bump.bump
      else c.bump.bump).Within pattern start := by
    split
    · exact h.bump.bump.bump
    · exact h.bump.bump
  generalize (if c.bump.bump.rest.head? == some '^' then c.bump.bump.bump
    else c.bump.bump) = f at hread hname
  split at hread
  · rename_i name rest hclosing
    obtain ⟨kind, -, rfl⟩ := Option.map_eq_some_iff.mp hread
    have hcolon := within_upToColon [] hname
    exact hcolon.bump.follows_bump (bump_rest hclosing) (by decide)
  · cases hread

/-! ### The class -/

theorem operator_ne_backslash {op : ClassOp} (h : operatorAt? cs = some op) :
    ∃ ch cs', cs = ch :: ch :: cs' ∧ ch ≠ '\\' := by
  obtain ⟨ch, cs', hcs, hch⟩ := operatorAt?_some h
  refine ⟨ch, cs', hcs, ?_⟩
  rintro rfl
  exact hch (by decide)

theorem loop_yields (fuel : Nat) (level : Level) (outer : List Level)
    (h : c.Follows pattern start) : Yields pattern start (loop fuel level outer c) := by
  induction fuel generalizing level outer c with
  | zero => exact trivial
  | succ fuel ih =>
    have hskip := h.skip
    unfold loop
    dsimp only
    split
    · exact trivial
    · rename_i cs hrest
      split
      · rename_i item d hascii
        exact ih _ _ (readAscii?_follows hskip.toWithin hascii)
      · exact (openClass_leads hskip hrest).bind fun opened hopened => ih _ _ hopened
    · rename_i cs hrest
      have hbehind := hskip.toWithin.follows_bump hrest (by decide)
      split
      · exact ⟨rfl, hbehind⟩
      · exact ih _ _ hbehind
    · split
      · rename_i op hop
        obtain ⟨ch, cs, hrest, hch⟩ := operator_ne_backslash hop
        exact ih _ _ (hskip.toWithin.bump.follows_bump (bump_rest hrest) hch)
      · exact (readRange_leads level.opening hskip).bind fun read hread => ih _ _ hread

/-- **A class is read to a cursor that follows.** -/
theorem read_yields (h : c.Follows pattern start) (hrest : c.rest = '[' :: cs) :
    Yields pattern start (read c) :=
  (openClass_leads h hrest).bind fun opened hopened =>
    loop_yields _ opened.1 [] hopened

end Bracket
end Regex
end StreamEditor
