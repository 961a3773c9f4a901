/-
# Classes of a plain pattern

A class of a plain pattern ends at the first closing bracket that is not escaped, which is where
the scans take it to end. If there is none then the class is never closed, and the fault says where
it was opened, as the scan does.

Key definitions: `Regex.Bracket.LeftOpen`, `Regex.Bracket.UnclosedAt`.
Key theorem: `Regex.Bracket.read_reads`.
-/
import StreamEditor.Proofs.Regex.Plain.Token

namespace StreamEditor
namespace Regex
namespace Bracket

open Cursor SyntaxError

variable {c d : Cursor} {ch : Char} {cs : List Char}

/-- A fault inside a class: if the class is never closed then it says where the class was opened,
and the pattern holds nothing more that would end it. -/
def LeftOpen (opening : Position) (c : Cursor) (e : SyntaxError) : Prop :=
  e.fault ≠ .groupUnclosed ∧
    (e.fault = .classUnclosed → e.span.start = opening ∧ ∃ d, c.Passes true d ∧ d.rest = [])

theorem LeftOpen.of_closed (opening : Position) (c : Cursor) (e : SyntaxError) (h : e.Closed) :
    LeftOpen opening c e :=
  ⟨(closed_iff.mp h).1, fun heq => absurd heq (closed_iff.mp h).2⟩

theorem LeftOpen.passing {opening : Position} {e : SyntaxError} (h : c.Passes true d)
    (k : LeftOpen opening d e) : LeftOpen opening c e := by
  refine ⟨k.1, fun heq => ?_⟩
  obtain ⟨hstart, last, hpasses, hrest⟩ := k.2 heq
  exact ⟨hstart, last, h.trans hpasses, hrest⟩

/-- The class is never closed if the pattern ends in it. -/
theorem leftOpen_of_end (span : Span) (h : c.Passes true d) (hrest : d.rest = []) :
    LeftOpen span.start c ⟨.classUnclosed, span, none⟩ :=
  ⟨Fault.noConfusion, fun _ => ⟨rfl, d, h, hrest⟩⟩

theorem not_special_of_ne (hbackslash : ch ≠ '\\') (hopening : ch ≠ '[') (hclosing : ch ≠ ']') :
    ch ∉ special true := by
  simp [special, hbackslash, hopening, hclosing]

/-! ### Items -/

theorem partOf_ends (item : Tree) : Result.Ends (fun _ => True) Closed (partOf item) := by
  unfold partOf
  split
  · trivial
  · trivial
  · trivial
  · exact rfl

theorem boundOf_ends (item : Tree) : Result.Ends (fun _ => True) Closed (boundOf item) := by
  unfold boundOf
  split
  · trivial
  · exact rfl

theorem ne_opening (h : c.Plain true) (hrest : c.rest = ch :: cs) : ch ≠ '[' := by
  rintro rfl
  have htext := h.text
  rw [hrest] at htext
  exact not_plainFrom_bracket cs htext

theorem readItem_reads (h : c.Plain true) (hrest : c.rest = ch :: cs) (hclosing : ch ≠ ']') :
    c.Reads Closed true (readItem c) := by
  unfold readItem
  split
  · rename_i hescape
    exact Escape.read_reads h hescape
  · rename_i ch' cs' hbackslash hrest'
    rw [hrest] at hrest'
    cases hrest'
    exact h.advances_bump hrest (not_special_of_ne hbackslash (ne_opening h hrest) hclosing)
  · rename_i hrest'
    rw [hrest] at hrest'
    cases hrest'

/-- An item or a range in a class is read, unless the class is never closed. -/
theorem readRange_reads (opening : Span) (h : c.Plain true) (hrest : c.rest = ch :: cs)
    (hclosing : ch ≠ ']') : c.Reads (LeftOpen opening.start c) true (readRange opening c) := by
  have hclosed := LeftOpen.of_closed opening.start c
  unfold readRange
  refine ((readItem_reads h hrest hclosing).mono_fault hclosed).bind fun first hfirst => ?_
  dsimp only
  rw [hfirst.plain.skip_eq]
  split
  · rename_i hend
    exact leftOpen_of_end opening hfirst.toPasses hend
  · rename_i ch' cs' hrest'
    split
    · exact ((partOf_ends first.1).mono_fault hclosed).bind fun _ _ => hfirst
    · rename_i hhyphen
      obtain ⟨⟨hch', hpeek⟩, -⟩ :
          (ch' = '-' ∧ first.2.peek? ≠ some ']') ∧ first.2.peek? ≠ some '-' := by
        simpa [not_or] using hhyphen
      rw [hch'] at hrest'
      rw [hfirst.plain.peek?_eq, hrest', List.tail_cons] at hpeek
      have hnext := hfirst.next hrest' (by decide)
      have hnextRest : first.2.next.rest = cs' := by
        rw [hfirst.plain.next_eq, bump_rest hrest']
      split
      · rename_i hend
        exact leftOpen_of_end opening hnext.toPasses (List.isEmpty_iff.mp hend)
      · rename_i hmore
        cases cs' with
        | nil => exact absurd (List.isEmpty_iff.mpr hnextRest) hmore
        | cons x xs =>
          have hx : x ≠ ']' := fun heq => hpeek (by rw [heq]; rfl)
          have hread := hnext.reads (readItem_reads hnext.plain hnextRest hx)
          refine (hread.mono_fault hclosed).bind fun second hsecond => ?_
          refine ((boundOf_ends first.1).mono_fault hclosed).bind fun lo _ => ?_
          refine ((boundOf_ends second.1).mono_fault hclosed).bind fun hi _ => ?_
          split
          · exact hsecond
          · exact hclosed _ rfl

/-! ### The class -/

/-- What reading the beginning of a class comes to: it has been passed, with a result of which
`good` holds, or the class is never closed. -/
def Opens {α : Type} (opening : Position) (c : Cursor) (good : α → Cursor → Prop) :
    Except SyntaxError (α × Cursor) → Prop :=
  Result.Ends (fun read => c.Passes true read.2 ∧ good read.1 read.2) (LeftOpen opening c)

/-- The cursor stays if there are no hyphens. -/
theorem hyphens_opens (opening : Position) (fuel : Nat) (items : List ClassSet)
    (h : c.Passes true d) :
    Opens opening c (fun read e => read = [] → items = [] ∧ e = d)
      (hyphens opening fuel items d) := by
  fun_induction hyphens opening fuel items d with
  | case1 => exact ⟨h, fun hnone => ⟨hnone, rfl⟩⟩
  | case2 fuel items d cs hrest hend =>
    have hnext := h.trans (h.plain.passes_next hrest (by decide))
    exact leftOpen_of_end ⟨opening, opening⟩ hnext (List.isEmpty_iff.mp hend)
  | case3 fuel items d cs hrest item hmore ih =>
    have hnext := h.trans (h.plain.passes_next hrest (by decide))
    exact (ih hnext).mono (fun _ hread => ⟨hread.1, fun hnone => nomatch (hread.2 hnone).1⟩)
      fun _ => id
  | case4 => exact ⟨h, fun hnone => ⟨hnone, rfl⟩⟩

theorem plain_inside (h : c.Plain false) (hrest : c.rest = '[' :: cs) : c.bump.Plain true := by
  have htext := h.text
  rw [hrest, plainFrom_opening] at htext
  exact ⟨by rw [bump_rest hrest]; exact htext.2, by rw [bump_verbose, h.spaced]⟩

/-- Behind the bracket, and the caret if there is one, no closing bracket stands for itself. -/
theorem openClass_opens (h : c.Plain false) (hrest : c.rest = '[' :: cs) :
    Opens c.pos c.bump (fun level _ => level.opening.start = c.pos) (openClass c) := by
  have hinside := (plain_inside h hrest).passes
  have hopening : plainOpening cs = true := by
    have htext := h.text
    rw [hrest, plainFrom_opening] at htext
    exact htext.1
  obtain ⟨e, he, hpasses, hclosing⟩ : ∃ e,
      (if c.bump.rest.head? == some '^' then c.bump.next else c.bump) = e ∧
        c.bump.Passes true e ∧ e.rest.head? ≠ some ']' := by
    have hinsideRest := bump_rest hrest
    split
    · rename_i hcaret
      obtain ⟨cs', hcaret⟩ := rest_of_head? hcaret
      rw [hinsideRest] at hcaret
      refine ⟨_, rfl, hinside.plain.passes_next (hinsideRest.trans hcaret) (by decide), ?_⟩
      rw [hinside.plain.next_eq, bump_rest (hinsideRest.trans hcaret)]
      intro hhead
      obtain ⟨cs'', rfl⟩ := List.head?_eq_some_iff.mp hhead
      rw [hcaret] at hopening
      cases hopening
    · refine ⟨_, rfl, hinside, fun hhead => ?_⟩
      obtain ⟨cs', hhead⟩ := List.head?_eq_some_iff.mp hhead
      rw [hinsideRest] at hhead
      rw [hhead] at hopening
      cases hopening
  unfold openClass
  dsimp only
  rw [h.next_eq, he]
  split
  · rename_i hend
    exact leftOpen_of_end _ hinside (List.isEmpty_iff.mp hend)
  · split
    · rename_i hend
      exact leftOpen_of_end _ hpasses (List.isEmpty_iff.mp hend)
    · refine (hyphens_opens c.pos e.rest.length [] hpasses).bind fun read hread => ?_
      dsimp only
      split
      · rename_i hliteral
        obtain ⟨hitems, hhead⟩ := Bool.and_eq_true_iff.mp hliteral
        rw [(hread.2 (List.isEmpty_iff.mp hitems)).2] at hhead
        exact absurd (beq_iff_eq.mp hhead) hclosing
      · exact ⟨hread.1, rfl⟩

/-- What reading a class to its end comes to: the cursor is behind the closing bracket, or the class
is never closed, or there is another fault in it. -/
def Closes (opening : Position) (c : Cursor) : Except SyntaxError (Tree × Cursor) → Prop :=
  Result.Ends (fun read => ∃ last cs, c.Passes true last ∧ last.rest = ']' :: cs ∧
    read.2 = last.bump) (LeftOpen opening c)

theorem operatorAt?_some {op : ClassOp} (h : operatorAt? cs = some op) :
    ∃ ch cs', cs = ch :: ch :: cs' ∧ ch ∉ special true := by
  unfold operatorAt? at h
  split at h
  · exact ⟨_, _, rfl, by decide⟩
  · exact ⟨_, _, rfl, by decide⟩
  · exact ⟨_, _, rfl, by decide⟩
  · cases h

theorem loop_closes {opening : Position} (fuel : Nat) (level : Level)
    (hlevel : level.opening.start = opening) (h : c.Passes true d)
    (hfuel : d.rest.length < fuel) : Closes opening c (loop fuel level [] d) := by
  induction fuel generalizing level d with
  | zero => exact absurd hfuel (Nat.not_lt_zero _)
  | succ fuel ih =>
    have hmore {e : Cursor} (level : Level) (hlevel : level.opening.start = opening)
        (he : d.Advances true e) : Closes opening c (loop fuel level [] e) :=
      ih level hlevel (h.trans he.toPasses) (by have := he.shorter; omega)
    rw [loop, h.plain.skip_eq]
    dsimp only
    split
    · rename_i hend
      rw [← hlevel]
      exact leftOpen_of_end level.opening h hend
    · rename_i cs hrest
      exact absurd rfl (ne_opening h.plain hrest)
    · rename_i cs hrest
      exact ⟨d, cs, h, hrest, rfl⟩
    · rename_i hnonempty hopening hclosing
      split
      · rename_i op hop
        obtain ⟨ch, cs, hrest, hch⟩ := operatorAt?_some hop
        have hfirst := h.plain.advances_bump hrest hch
        exact hmore _ hlevel (hfirst.bump (bump_rest hrest) hch)
      · obtain ⟨ch, cs, hrest⟩ := List.exists_cons_of_ne_nil hnonempty
        have hitem := readRange_reads level.opening h.plain hrest
          fun heq => hclosing cs (heq ▸ hrest)
        rw [← hlevel] at hmore ⊢
        exact (hitem.mono_fault fun _ => .passing h).bind fun read hread =>
          hmore _ rfl hread

theorem read_closes (h : c.Plain false) (hrest : c.rest = '[' :: cs) :
    Closes c.pos c.bump (read c) := by
  refine (openClass_opens h hrest).bind fun opened hopened => ?_
  refine loop_closes _ opened.1 hopened.2 hopened.1 ?_
  have hlength := hopened.1.length_le
  rw [bump_rest hrest] at hlength
  rw [hrest, List.length_cons]
  omega

/-- A fault in a class: if the class is never closed then the fault is where it was opened, and so
says the scan. -/
def UnclosedAt (c : Cursor) (e : SyntaxError) : Prop :=
  e.fault ≠ .groupUnclosed ∧
    (e.fault = .classUnclosed → e.span.start = c.pos ∧ c.scanClasses [] = some c.pos.offset)

/-- **A class of a plain pattern is read to where the scans take it to end,** or the scan for an
unclosed class finds that it is not closed. -/
theorem read_reads (h : c.Plain false) (hrest : c.rest = '[' :: cs) :
    c.Reads (UnclosedAt c) false (read c) := by
  refine (read_closes h hrest).mono (fun read hread => ?_) fun e he => ⟨he.1, fun heq => ?_⟩
  · obtain ⟨last, cs', hpasses, hlast, hbehind⟩ := hread
    have htext := hpasses.plain.text
    rw [hlast, plainFrom_closing] at htext
    obtain ⟨text, hread', hoffset⟩ := hpasses.read
    rw [hbehind]
    refine ⟨⟨⟨?_, ?_⟩, ⟨'[' :: (text ++ [']']), ?_, ?_⟩, fun stack => ?_, fun opening => ?_⟩, ?_⟩
    · rw [bump_rest hlast]
      exact htext
    · rw [bump_verbose, hpasses.plain.spaced]
    · rw [hrest, ← bump_rest hrest, hread', hlast, bump_rest hlast]
      simp
    · rw [bump_offset hlast, hoffset, bump_offset hrest]
      simp only [List.length_cons, List.length_append, List.length_nil]
      omega
    · calc c.scanGroups false stack = c.bump.scanGroups true stack := scanGroups_opening hrest stack
        _ = last.scanGroups true stack := hpasses.groups stack
        _ = last.bump.scanGroups false stack := scanGroups_closing hlast stack
    · calc c.scanClasses [] = c.bump.scanClasses [c.pos.offset] := scanClasses_opening hrest
        _ = last.scanClasses [c.pos.offset] := hpasses.classes c.pos.offset
        _ = last.bump.scanClasses [] := scanClasses_closing hlast c.pos.offset
    · have hlength := hpasses.length_le
      rw [bump_rest hrest, hlast, List.length_cons] at hlength
      rw [bump_rest hlast, hrest, List.length_cons]
      omega
  · obtain ⟨hstart, last, hpasses, hend⟩ := he.2 heq
    refine ⟨hstart, ?_⟩
    calc c.scanClasses [] = c.bump.scanClasses [c.pos.offset] := scanClasses_opening hrest
      _ = last.scanClasses [c.pos.offset] := hpasses.classes c.pos.offset
      _ = some c.pos.offset := by rw [Cursor.scanClasses, hend]; rfl

end Bracket
end Regex
end StreamEditor
