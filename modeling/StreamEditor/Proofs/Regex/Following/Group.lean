/-
# Groups beside the scans

The head of a group holds no backslash. If it is more than a parenthesis then it begins with a
question mark right behind the parenthesis, which the scan for a quantifier takes for an operator
that has nothing to repeat.

Key definition: `Regex.Tree.HeadLeads`.
Key theorem: `Regex.Tree.readHead_leads`.
-/
import StreamEditor.Proofs.Regex.Following.Token
import StreamEditor.Proofs.Regex.Plain.Group

namespace StreamEditor
namespace Regex
namespace Tree

open Cursor SyntaxError

variable {pattern : List Char} {start inner c d : Cursor} {ch : Char} {cs : List Char}

/-! ### Names and flags -/

theorem readName_follows {rest : List Char} {pos : Position} {verbose : Bool} (name : List Char)
    (h : Within pattern ⟨rest, pos, verbose⟩ start) :
    Result.Ends (fun read => Follows pattern ⟨read.2.1, read.2.2.after '>', verbose⟩ start)
      (Blames pattern) (readName name rest pos) := by
  fun_induction readName name rest pos with
  | case1 => exact trivial
  | case2 name ch cs pos hend =>
    cases beq_iff_eq.mp hend
    exact h.follows_bump rfl (by decide)
  | case3 name ch cs pos _ _ ih => exact ih h.bump
  | case4 => exact trivial

theorem readFlags_within {rest : List Char} {pos : Position} {verbose : Bool}
    (seen : List (FlagItem × Span)) (h : Within pattern ⟨rest, pos, verbose⟩ start) :
    Result.Ends (fun read => Within pattern ⟨read.2.1, read.2.2, verbose⟩ start ∧
        ∃ ch cs, read.2.1 = ch :: cs ∧ (ch = ':' ∨ ch = ')'))
      (Blames pattern) (readFlags seen rest pos) := by
  fun_induction readFlags seen rest pos with
  | case1 => exact trivial
  | case2 => exact trivial
  | case3 seen ch cs pos hend _ => exact ⟨h, ch, cs, rfl, by simpa using hend⟩
  | case4 => exact trivial
  | case5 seen ch cs pos _ _ _ item =>
    change Blames pattern ⟨if item == .negation then .flagRepeatedNegation else .flagDuplicate,
      _, _⟩
    cases item == .negation <;> exact trivial
  | case6 seen ch cs pos _ _ _ item _ _ ih => exact ih h.bump

/-! ### Heads -/

theorem readNamedHead_leads (h : c.Within pattern start) :
    Leads pattern start (readNamedHead c) := by
  refine (readName_follows [] h).bind fun read hread => ?_
  dsimp only
  split
  · exact trivial
  · exact hread

/-- The question mark has nothing to repeat if no flag follows. -/
theorem readFlagsHead_leads (parenthesis : Span) (hmark : LacksOperand pattern inner.pos.offset)
    (h : c.Within pattern start) : Leads pattern start (readFlagsHead parenthesis inner c) := by
  unfold readFlagsHead
  split
  · exact trivial
  · refine (readFlags_within [] h).bind fun read hread => ?_
    obtain ⟨items, rest, pos⟩ := read
    obtain ⟨hwithin, ch, cs, hrest, hch⟩ := hread
    have hbehind := hwithin.follows_bump hrest (by rcases hch with rfl | rfl <;> decide)
    dsimp only
    split
    · split
      · exact hmark
      · exact hbehind
    · exact hbehind

/-- What reading a head comes to: a cursor that follows, and unless a place up to there looked as if
there were nothing to repeat, it is right behind the parenthesis. -/
def HeadLeads (pattern : List Char) (start : Cursor) :
    Except SyntaxError (GroupHead × Cursor) → Prop :=
  Result.Ends (fun read => read.2.Follows pattern start ∧
      (SeemsRepeated pattern read.2.pos.offset →
        read.1 = .capture ∧ EndsBare (pattern.take read.2.pos.offset)))
    (Blames pattern)

/-- A head with a question mark looks as if there were nothing to repeat. -/
theorem headLeads_of_mark {x : Except SyntaxError (GroupHead × Cursor)}
    (hinner : inner.Within pattern start) (hrest : inner.rest = '?' :: cs)
    (hbare : SeemsRepeated pattern inner.pos.offset → EndsBare (pattern.take inner.pos.offset))
    (h : Leads pattern inner.bump x) : HeadLeads pattern start x := by
  refine h.mono (fun read hread => ⟨?_, fun hseems => ?_⟩) fun _ => id
  · exact ⟨hinner.bump.trans hread.toWithin, hread.settled⟩
  · have hlt := hread.toWithin.bump_lt hrest
    have hmissing : LooksMissing pattern inner.pos.offset := by
      refine ⟨?_, hbare (hseems.mono (Nat.le_of_lt hlt))⟩
      rw [hinner.getElem?_offset hrest]
      decide
    exact absurd hmissing (hseems _ hlt)

/-- **The head of a group is read to a cursor that follows.** If no place up to there looked as if
there were nothing to repeat then blanks count, and there is no more to the head than its
parenthesis. -/
theorem readHead_leads (h : c.Follows pattern c) (hrest : c.rest = '(' :: cs)
    (hspaced : SeemsRepeated pattern c.pos.offset → c.verbose = false) :
    HeadLeads pattern c (readHead c) := by
  have hinner : c.next.Follows pattern c := h.toWithin.next hrest (by decide)
  have hbare : SeemsRepeated pattern c.next.pos.offset →
      EndsBare (pattern.take c.next.pos.offset) := by
    intro hseems
    rw [next_of_spaced (hspaced (hseems.mono hinner.ahead)), h.toWithin.take_bump hrest,
      endsBare_concat]
    exact .inl rfl
  have hmark : ∀ cs, c.next.rest = '?' :: cs → LacksOperand pattern c.next.pos.offset :=
    fun cs hcs => ⟨⟨'?', by decide, hinner.toWithin.getElem?_offset hcs⟩, hbare⟩
  have hbehind : c.next.bump.Within pattern c.next.bump := hinner.toWithin.bump.from_here
  have hheads {cs : List Char} {x : Except SyntaxError (GroupHead × Cursor)}
      (hcs : c.next.rest = '?' :: cs) (hx : Leads pattern c.next.bump x) :
      HeadLeads pattern c x := headLeads_of_mark hinner.toWithin hcs hbare hx
  unfold readHead
  dsimp only
  split
  · exact trivial
  · exact trivial
  · exact trivial
  · exact trivial
  · rename_i hcs
    exact hheads hcs (readNamedHead_leads hbehind.bump.bump)
  · rename_i hcs
    exact hheads hcs (readNamedHead_leads hbehind.bump)
  · rename_i hcs
    exact hheads hcs (readFlagsHead_leads c.charSpan (hmark _ hcs) hbehind)
  · exact ⟨hinner, fun hseems => ⟨rfl, hbare hseems⟩⟩

end Tree
end Regex
end StreamEditor
