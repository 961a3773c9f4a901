/-
# Groups of a plain pattern

The head of a group of a plain pattern holds no delimiter but the parenthesis that ends a list of
flags. If the pattern ends in a head then the group is never closed, and the fault says where its
parenthesis is.

Key definitions: `Regex.Tree.GroupHead.Passed`, `Regex.Tree.HeadOpen`.
Key theorem: `Regex.Tree.readHead_read`.
-/
import StreamEditor.Proofs.Regex.Plain.Bracket

namespace StreamEditor
namespace Regex
namespace Tree

open Cursor SyntaxError

variable {c d : Cursor} {ch : Char} {cs : List Char}

/-! ### The characters of a head -/

/-- What ends the head of a group, and what means something to the scans besides brackets. -/
def notInHead : List Char := [':', ')', '>', '\\', '(']

section head

variable {p : Char → Bool} (hp : notInHead.any p = false) (hch : p ch = true)
include hp hch

theorem not_mem_notInHead : ch ∉ notInHead :=
  fun hmem => List.any_eq_false.mp hp ch hmem hch

theorem headOf_cons : headOf (ch :: cs) = ch :: headOf cs := by
  have hnot := not_mem_notInHead hp hch
  simp only [notInHead, List.mem_cons, List.not_mem_nil, or_false, not_or] at hnot
  simp [headOf, hnot]

theorem not_special_of_head (hopening : ch ≠ '[') : ch ∉ special false := by
  have hnot := not_mem_notInHead hp hch
  simp only [notInHead, List.mem_cons, List.not_mem_nil, or_false, not_or] at hnot
  simp [special, hnot, hopening]

end head

/-! ### Names -/

theorem isNameChar_special (first : Bool) :
    notInHead.any (fun ch => isNameChar ch first) = false := by
  cases first <;> decide

/-- A name is passed up to the angle bracket behind it. -/
theorem readName_ends (name : List Char) (hhead : '[' ∉ headOf d.rest)
    (h : c.Passes false d) :
    Result.Ends (fun read => c.Passes false { d with rest := read.2.1, pos := read.2.2.after '>' })
      Closed (readName name d.rest d.pos) := by
  obtain ⟨rest, pos, verbose⟩ := d
  dsimp only at hhead ⊢
  fun_induction readName name rest pos with
  | case1 => exact rfl
  | case2 name ch cs pos hend =>
    cases beq_iff_eq.mp hend
    exact h.trans (h.plain.passes_bump rfl (by decide))
  | case3 name ch cs pos hend hch ih =>
    rw [headOf_cons (isNameChar_special _) hch, List.mem_cons, not_or] at hhead
    have hspecial := not_special_of_head (isNameChar_special _) hch (Ne.symm hhead.1)
    exact ih hhead.2 (h.trans (h.plain.passes_bump rfl hspecial))
  | case4 => exact rfl

/-! ### Flags -/

/-- The characters of a list of flags. -/
def isFlagChar (ch : Char) : Bool :=
  ch == '-' || (Flag.ofChar? ch).isSome

theorem isFlagChar_special : notInHead.any isFlagChar = false := by
  decide

/-- The item that a character of a list of flags stands for. -/
theorem flagItem_of_char {item : FlagItem}
    (h : (if ch == '-' then some .negation else (Flag.ofChar? ch).map .flag) = some item) :
    isFlagChar ch = true ∧ (item = .flag .verbose → ch = 'x') := by
  unfold isFlagChar
  split at h
  · rename_i hhyphen
    cases h
    exact ⟨by rw [hhyphen, Bool.true_or], nofun⟩
  · obtain ⟨f, hf, rfl⟩ := Option.map_eq_some_iff.mp h
    refine ⟨by rw [hf, Option.isSome_some, Bool.or_true], ?_⟩
    rintro heq
    cases heq
    unfold Flag.ofChar? at hf
    split at hf <;> first | rfl | cases hf

/-- A list of flags is passed up to what ends it, and it does not switch to verbose mode. -/
theorem readFlags_ends (seen : List (FlagItem × Span)) (hx : 'x' ∉ headOf d.rest)
    (hseen : ∀ item ∈ seen, item.1 ≠ .flag .verbose) (h : c.Passes false d) :
    Result.Ends (fun read => .flag .verbose ∉ read.1 ∧
        c.Passes false { d with rest := read.2.1, pos := read.2.2 } ∧
          ∃ ch cs, read.2.1 = ch :: cs ∧ (ch = ':' ∨ ch = ')'))
      Closed (readFlags seen d.rest d.pos) := by
  obtain ⟨rest, pos, verbose⟩ := d
  dsimp only at hx ⊢
  fun_induction readFlags seen rest pos with
  | case1 => exact rfl
  | case2 => exact rfl
  | case3 seen ch cs pos hend _ =>
    refine ⟨fun hverbose => ?_, h, ch, cs, rfl, by simpa using hend⟩
    rw [List.mem_reverse, List.mem_map] at hverbose
    obtain ⟨item, hitem, heq⟩ := hverbose
    exact hseen item hitem heq
  | case4 => exact rfl
  | case5 seen ch cs pos _ _ _ item _ earlier _ fault =>
    change SyntaxError.Closed ⟨if item == .negation then .flagRepeatedNegation else .flagDuplicate,
      _, _⟩
    cases item == .negation <;> exact rfl
  | case6 seen ch cs pos _ _ _ item hitem _ ih =>
    obtain ⟨hflag, hverbose⟩ := flagItem_of_char hitem
    rw [headOf_cons isFlagChar_special hflag, List.mem_cons, not_or] at hx
    have hspecial := not_special_of_head isFlagChar_special hflag
      fun heq => by simp [heq, isFlagChar, Flag.ofChar?] at hflag
    refine ih (fun earlier hmem => ?_) hx.2 (h.trans (h.plain.passes_bump rfl hspecial))
    rcases List.mem_cons.mp hmem with rfl | hmem
    · exact fun heq => hx.1 (hverbose heq).symm
    · exact hseen earlier hmem

theorem flagValue?_eq_none {f : Flag} : ∀ (on : Bool) {items : List FlagItem},
    .flag f ∉ items → flagValue? f on items = none
  | _, [], _ => rfl
  | _, .negation :: items, h =>
    flagValue?_eq_none false fun hmem => h (List.mem_cons_of_mem _ hmem)
  | on, .flag g :: items, h => by
    rw [List.mem_cons, not_or] at h
    have hne : (g == f) = false := beq_eq_false_iff_ne.mpr fun heq => h.1 (by rw [heq])
    rw [flagValue?, hne]
    exact flagValue?_eq_none on h.2

/-! ### Heads -/

/-- A fault in the head of a group: if the group is never closed then it says where the group was
opened, and the pattern ends in the head. -/
def HeadOpen (parenthesis : Span) (c : Cursor) (e : SyntaxError) : Prop :=
  e.fault ≠ .classUnclosed ∧
    (e.fault = .groupUnclosed → e.span = parenthesis ∧ ∃ d, c.Passes false d ∧ d.rest = [])

theorem HeadOpen.of_closed (parenthesis : Span) (c : Cursor) (e : SyntaxError) (h : e.Closed) :
    HeadOpen parenthesis c e :=
  ⟨(closed_iff.mp h).2, fun heq => absurd heq (closed_iff.mp h).1⟩

/-- A head has been passed; a list of flags with the parenthesis that ends it. -/
def GroupHead.Passed (c d : Cursor) : GroupHead → Prop
  | .setFlags items =>
    .flag .verbose ∉ items ∧ ∃ last cs, c.Passes false last ∧ last.rest = ')' :: cs ∧ d = last.bump
  | .plain items => .flag .verbose ∉ items ∧ c.Passes false d
  | .capture => c.Passes false d
  | .named _ _ => c.Passes false d

/-- What reading a head comes to. -/
def HeadRead (parenthesis : Span) (c : Cursor) : Except SyntaxError (GroupHead × Cursor) → Prop :=
  Result.Ends (fun read => read.1.Passed c read.2) (HeadOpen parenthesis c)

theorem readNamedHead_read (parenthesis : Span) (hhead : '[' ∉ headOf d.rest)
    (h : c.Passes false d) : HeadRead parenthesis c (readNamedHead d) := by
  have hname := readName_ends [] hhead h
  refine (hname.mono_fault (HeadOpen.of_closed parenthesis c)).bind fun read hread => ?_
  dsimp only
  split
  · exact HeadOpen.of_closed _ _ _ rfl
  · exact hread

/-- The cursor is at the beginning of the group, and a text stands before its name. -/
theorem readNamedHead_of_text (parenthesis : Span) (text : List Char) {name : List Char}
    (h : c.Plain false) (hrest : c.rest = text ++ name)
    (htext : text.any (special false).contains = false)
    (hname : (headOf name).contains '[' = false) :
    HeadRead parenthesis c (readNamedHead (bumps text.length c)) := by
  obtain ⟨hpasses, hbehind⟩ := h.passes_bumps text hrest htext
  refine readNamedHead_read parenthesis ?_ hpasses
  rw [hbehind]
  simpa using hname

/-- The cursor is behind the question mark. -/
theorem readFlagsHead_read (parenthesis : Span) (inner : Cursor) (hx : 'x' ∉ headOf d.rest)
    (h : c.Passes false d) :
    HeadRead parenthesis c (readFlagsHead parenthesis inner d) := by
  have hflags := readFlags_ends [] hx nofun h
  unfold readFlagsHead
  split
  · rename_i hend
    exact ⟨Fault.noConfusion, fun _ => ⟨rfl, d, h, List.isEmpty_iff.mp hend⟩⟩
  · refine (hflags.mono_fault (HeadOpen.of_closed parenthesis c)).bind fun read hread => ?_
    obtain ⟨items, rest, pos⟩ := read
    obtain ⟨hverbose, hpasses, ch, cs, hrest, hch⟩ := hread
    dsimp only at hrest hpasses ⊢
    cases hrest
    rcases hch with rfl | rfl
    · exact ⟨hverbose, hpasses.trans (hpasses.plain.passes_bump rfl (by decide))⟩
    · change HeadRead parenthesis c (if items.isEmpty then _ else _)
      split
      · exact HeadOpen.of_closed _ _ _ rfl
      · exact ⟨hverbose, _, cs, hpasses, rfl, rfl⟩

/-- **The head of a group is passed,** or the group is never closed. -/
theorem readHead_read (h : c.Plain false) (hrest : c.rest = '(' :: cs) :
    HeadRead c.charSpan c.bump (readHead c) := by
  have htext := h.text
  rw [hrest, plainFrom_parenthesis] at htext
  obtain ⟨hhead, htext⟩ := htext
  have hinside : c.bump.Plain false :=
    ⟨by rw [bump_rest hrest]; exact htext, by rw [bump_verbose, h.spaced]⟩
  unfold readHead
  dsimp only
  rw [h.next_eq]
  split
  · exact HeadOpen.of_closed _ _ _ rfl
  · exact HeadOpen.of_closed _ _ _ rfl
  · exact HeadOpen.of_closed _ _ _ rfl
  · exact HeadOpen.of_closed _ _ _ rfl
  · rename_i name hname
    rw [← bump_rest hrest, hname] at hhead
    have hbracket : (headOf name).contains '[' = false := by simpa [plainHead] using hhead
    exact readNamedHead_of_text c.charSpan ['?', 'P', '<'] hinside hname (by decide) hbracket
  · rename_i name _ _ hname
    rw [← bump_rest hrest, hname] at hhead
    have hbracket : (headOf name).contains '[' = false := by simpa [plainHead] using hhead
    exact readNamedHead_of_text c.charSpan ['?', '<'] hinside hname (by decide) hbracket
  · rename_i flags _ _ _ _ hnamed hangle hflags
    rw [← bump_rest hrest, hflags, plainHead] at hhead
    · refine readFlagsHead_read c.charSpan c.bump ?_ (hinside.passes_bump hflags (by decide))
      rw [bump_rest hflags]
      simpa using hhead
    · exact hangle
    · exact hnamed
  · exact hinside.passes

end Tree
end Regex
end StreamEditor
