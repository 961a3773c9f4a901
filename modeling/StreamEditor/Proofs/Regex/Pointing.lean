/-
# Where a quantifier or an escape sequence is refused

The reader of patterns refuses an operator of repetition where its branch has nothing to repeat yet,
and an escape sequence that it does not recognize. The scans look for both in the text. As long as
the scan for a quantifier has found nothing, there was no head of a group with a question mark, so
blanks count, every part of the branch can be repeated, and a branch without parts is one that has
just begun (`step_follows`). So the place told is right unless the scan has found another before
it, and so is the sequence told (`compilePattern_points`).

Key definitions: `Regex.Tree.Reader.Regular`, `Regex.Tree.Reader.Follows`,
`Regex.CompileError.RefusesRepetition`, `Regex.CompileError.RefusesSequence`.
Key theorems: `Regex.Tree.step_follows`, `Regex.Tree.loop_follows`, `Regex.compilePattern_points`.
-/
import StreamEditor.Proofs.Regex.Classification
import StreamEditor.Proofs.Regex.Following.Bracket
import StreamEditor.Proofs.Regex.Following.Group

namespace StreamEditor
namespace Regex
namespace Tree

open Cursor SyntaxError

variable {pattern : List Char} {r next : Reader} {start c d : Cursor} {ch : Char} {cs : List Char}

/-- A reader to which blanks count, in its group and in those around, and whose branch is one that
has just begun or ends in a part that can be repeated. -/
structure Reader.Regular (pattern : List Char) (r : Reader) : Prop where
  spaced : r.cursor.verbose = false
  around : ∀ o ∈ r.opened, o.verbose = false
  bare : r.body.parts = [] → EndsBare (pattern.take r.cursor.pos.offset)
  repeatable : ∀ part ∈ r.body.parts.head?, part.isUnrepeatable = false

/-- A reader beside the scans: its cursor follows, and it is regular unless the scan for a
quantifier has found something. -/
structure Reader.Follows (pattern : List Char) (r : Reader) : Prop where
  cursor : r.cursor.Follows pattern r.cursor
  regular : SeemsRepeated pattern r.cursor.pos.offset → r.Regular pattern

/-- What a step of the reader comes to. -/
def StepFollows (pattern : List Char) : Except SyntaxError Reader → Prop :=
  Result.Ends (fun next => next.Follows pattern) (Blames pattern)

theorem follows_withVerbose (h : c.Follows pattern start) (verbose : Bool) :
    Cursor.Follows pattern { c with verbose } { c with verbose } :=
  ⟨⟨h.rest, Nat.le_refl _, rfl⟩, h.settled⟩

/-- A reader that reads one more part, which can be repeated. -/
theorem Reader.Follows.of_push {part : Tree} (h : r.Follows pattern)
    (hcursor : next.cursor.Follows pattern r.cursor) (hpart : part.isUnrepeatable = false)
    {parts : List Tree} (hparts : next.body.parts = part :: parts)
    (hopened : next.opened = r.opened) : next.Follows pattern := by
  refine ⟨hcursor.from_here, fun hseems => ?_⟩
  have hregular := h.regular (hseems.mono hcursor.ahead)
  refine ⟨hcursor.mode.trans hregular.spaced, ?_, fun hnone => ?_, fun last hlast => ?_⟩
  · rw [hopened]
    exact hregular.around
  · rw [hparts] at hnone
    cases hnone
  · rw [hparts] at hlast
    cases hlast
    exact hpart

/-! ### Repetitions -/

/-- Where there is nothing to repeat, the scan finds that too unless it has found something. -/
theorem popRepeated_blames (h : r.Follows pattern) (hrest : r.cursor.rest = ch :: cs)
    (hch : ch ∈ ['?', '*', '+', '{']) :
    Result.Ends (fun _ => True) (Blames pattern) (popRepeated r.body r.cursor) := by
  have hoperator := h.cursor.toWithin.getElem?_offset hrest
  unfold popRepeated
  split
  · rename_i hnone
    exact ⟨⟨ch, hch, hoperator⟩, fun hseems => (h.regular hseems).bare hnone⟩
  · rename_i part before hparts
    split
    · rename_i hpart
      refine ⟨⟨ch, hch, hoperator⟩, fun hseems => ?_⟩
      have hrepeatable := (h.regular hseems).repeatable part (by rw [hparts]; rfl)
      rw [hpart] at hrepeatable
      cases hrepeatable
    · trivial

theorem repeated_follows (part : Tree) (range : RepeatRange) (h : c.Follows pattern start) :
    (repeated part range c).2.Follows pattern start := by
  unfold repeated
  dsimp only
  split
  · rename_i hlazy
    obtain ⟨cs, hrest⟩ := rest_of_head? hlazy
    exact h.toWithin.follows_bump hrest (by decide)
  · exact h

theorem repeatBy_follows (range : RepeatRange) (h : r.Follows pattern)
    (hrest : r.cursor.rest = ch :: cs) (hch : ch ∈ ['?', '*', '+', '{']) :
    StepFollows pattern (r.repeatBy range) := by
  have hbackslash : ch ≠ '\\' := by
    rintro rfl
    exact absurd hch (by decide)
  have hbehind := h.cursor.toWithin.follows_bump hrest hbackslash
  unfold Reader.repeatBy
  exact (popRepeated_blames h hrest hch).bind fun popped _ =>
    h.of_push (repeated_follows popped.1 range hbehind) rfl rfl rfl

theorem repeatCounted_follows (h : r.Follows pattern) (hrest : r.cursor.rest = '{' :: cs) :
    StepFollows pattern r.repeatCounted := by
  unfold Reader.repeatCounted
  refine (popRepeated_blames h hrest (by decide)).bind fun popped _ => ?_
  refine (readCounts_lead h.cursor hrest).bind fun counts hread => ?_
  obtain ⟨hbefore, cs', hbrace⟩ := hread
  have hend := repeated_follows popped.1 counts.1 (hbefore.toWithin.next hbrace (by decide))
  dsimp only
  split
  · split
    · exact h.of_push hend rfl rfl rfl
    · exact trivial
  · exact h.of_push hend rfl rfl rfl

/-! ### Groups -/

/-- A reader in a group that has nothing to its head but its parenthesis. -/
theorem regular_enter (haround : ∀ o ∈ r.opened, o.verbose = false) (parenthesis : Span)
    (index : Nat) (hspaced : d.verbose = false)
    (hbare : EndsBare (pattern.take d.pos.offset)) :
    (r.enter parenthesis (.capture index) d).Regular pattern :=
  ⟨hspaced, List.forall_mem_cons.mpr ⟨hspaced, haround⟩, fun _ => hbare,
    fun _ hpart => by cases hpart⟩

/-- A reader behind a head in which the scan has found something. -/
theorem follows_of_marked {verbose : Bool} (hbehind : d.Follows pattern start)
    (hmarked : ¬ SeemsRepeated pattern d.pos.offset) (hcursor : next.cursor = { d with verbose }) :
    next.Follows pattern := by
  constructor
  · rw [hcursor]
    exact follows_withVerbose hbehind verbose
  · rw [hcursor]
    exact fun hseems => absurd hseems hmarked

theorem openGroup_follows (h : r.Follows pattern) (hrest : r.cursor.rest = '(' :: cs) :
    StepFollows pattern r.openGroup := by
  unfold Reader.openGroup
  refine (readHead_leads h.cursor hrest fun hseems => (h.regular hseems).spaced).bind
    fun read hread => ?_
  obtain ⟨head, d⟩ := read
  obtain ⟨hbehind, hcapture⟩ := hread
  have hmarked (hhead : head ≠ .capture) : ¬ SeemsRepeated pattern d.pos.offset :=
    fun hseems => hhead (hcapture hseems).1
  cases head with
  | setFlags items => exact follows_of_marked hbehind (hmarked GroupHead.noConfusion) rfl
  | plain items => exact follows_of_marked hbehind (hmarked GroupHead.noConfusion) rfl
  | capture =>
    refine ⟨follows_withVerbose hbehind _, fun hseems => ?_⟩
    have hregular := h.regular (SeemsRepeated.mono hseems hbehind.ahead)
    exact regular_enter (r := { r with groups := r.groups + 1 }) hregular.around _ _
      (hbehind.mode.trans hregular.spaced) (hcapture hseems).2
  | named name span =>
    dsimp only
    split
    · exact trivial
    · exact follows_of_marked hbehind (hmarked GroupHead.noConfusion) rfl

theorem closeGroup_follows (h : r.Follows pattern) (hrest : r.cursor.rest = ')' :: cs) :
    StepFollows pattern r.closeGroup := by
  unfold Reader.closeGroup
  dsimp only
  split
  · exact trivial
  · rename_i o rest hopened
    have hbehind := h.cursor.toWithin.follows_bump hrest (by decide)
    refine ⟨follows_withVerbose hbehind o.verbose, fun hseems => ?_⟩
    have hregular := h.regular (hseems.mono hbehind.ahead)
    -- the body around goes on with the group, which can be repeated whatever is in it
    have haround := hregular.around
    rw [hopened] at haround
    obtain ⟨ho, haround⟩ := List.forall_mem_cons.mp haround
    refine ⟨ho, haround, fun hnone => ?_, fun part hpart => ?_⟩
    · cases hnone
    · cases hpart
      rfl

/-! ### One step -/

theorem bar_follows (h : r.Follows pattern) (hrest : r.cursor.rest = '|' :: cs)
    (hcursor : next.cursor = r.cursor.bump) (hopened : next.opened = r.opened)
    (hparts : next.body.parts = []) : next.Follows pattern := by
  have hbehind := h.cursor.toWithin.follows_bump hrest (by decide)
  refine ⟨by rw [hcursor]; exact hbehind.from_here, fun hseems => ?_⟩
  rw [hcursor] at hseems
  have hregular := h.regular (hseems.mono hbehind.ahead)
  refine ⟨?_, ?_, fun _ => ?_, fun part hpart => ?_⟩
  · rw [hcursor]
    exact hbehind.mode.trans hregular.spaced
  · rw [hopened]
    exact hregular.around
  · rw [hcursor, h.cursor.toWithin.take_bump hrest, endsBare_concat]
    exact .inr rfl
  · rw [hparts] at hpart
    cases hpart

theorem readSingle_yields (h : c.Follows pattern start) (hrest : c.rest = ch :: cs) :
    Yields pattern start (readSingle c) := by
  unfold readSingle
  split
  · rename_i hescape
    exact Escape.read_yields h hescape
  · rename_i hdot
    exact ⟨rfl, h.toWithin.follows_bump hdot (by decide)⟩
  · rename_i hcaret
    exact ⟨rfl, h.toWithin.follows_bump hcaret (by decide)⟩
  · rename_i hdollar
    exact ⟨rfl, h.toWithin.follows_bump hdollar (by decide)⟩
  · rename_i hbackslash _ _ _ hliteral
    exact ⟨rfl, h.toWithin.follows_bump hliteral hbackslash⟩
  · rename_i hend
    rw [hrest] at hend
    cases hend

/-- **One step keeps the reader beside the scans,** or it ends in a fault for which the pattern shows
what it should. -/
theorem step_follows (h : r.Follows pattern) (hrest : r.cursor.rest = ch :: cs) :
    StepFollows pattern (step r ch) := by
  unfold step
  split
  · exact openGroup_follows h hrest
  · exact closeGroup_follows h hrest
  · exact bar_follows h hrest rfl rfl rfl
  · exact (Bracket.read_yields h.cursor hrest).bind fun read hread =>
      h.of_push hread.2 hread.1 rfl rfl
  · exact repeatBy_follows _ h hrest (by decide)
  · exact repeatBy_follows _ h hrest (by decide)
  · exact repeatBy_follows _ h hrest (by decide)
  · exact repeatCounted_follows h hrest
  · exact (readSingle_yields h.cursor hrest).bind fun read hread =>
      h.of_push hread.2 hread.1 rfl rfl

/-! ### The pattern -/

/-- Blanks that do not count make no difference. -/
theorem Reader.Follows.skip (h : r.Follows pattern) :
    Reader.Follows pattern { r with cursor := r.cursor.skip } := by
  refine ⟨h.cursor.skip.from_here, fun hseems => ?_⟩
  have hregular := h.regular (SeemsRepeated.mono hseems h.cursor.skip.ahead)
  have hstays : r.cursor.skip = r.cursor := by
    rw [Cursor.skip, hregular.spaced]
    rfl
  rw [hstays]
  exact hregular

/-- **So does a whole reading.** -/
theorem loop_follows (fuel : Nat) (h : r.Follows pattern) :
    StepFollows pattern (loop fuel r) := by
  -- one round of the loop for each unit of fuel, from whatever reader the round before came to
  induction fuel generalizing r with
  | zero => exact h
  | succ fuel ih =>
    have hskip := h.skip
    unfold loop
    dsimp only
    split
    · exact hskip
    · rename_i ch cs hrest
      exact (step_follows hskip hrest).bind fun next hnext => ih hnext

theorem finish_blames (pattern : List Char) (r : Reader) :
    Result.Ends (fun _ => True) (Blames pattern) (finish r) := by
  unfold finish
  split <;> exact trivial

/-- Before the first character nothing has been opened or read. -/
theorem Reader.Follows.initial (pattern : List Char) : Reader.Follows pattern
    ⟨ofPattern pattern, 0, [], Body.fresh (ofPattern pattern).pos, []⟩ := by
  refine ⟨follows_ofPattern pattern, fun _ => ⟨rfl, fun o ho => ?_, fun _ => ?_, fun _ hpart => ?_⟩⟩
  · cases ho
  · exact List.mem_cons_self
  · cases hpart

/-- **Where a pattern cannot be read,** the pattern shows what it should. -/
theorem parse_blames (pattern : List Char) :
    Result.Ends (fun _ => True) (Blames pattern) (parse pattern) := by
  unfold parse
  refine (loop_follows _ (.initial pattern)).bind fun last _ => ?_
  refine (finish_blames pattern last).bind fun tree _ => ?_
  split <;> exact trivial

end Tree

/-! ### The meaning -/

section meaning

variable (pattern : List Char) (fs : Flags)

theorem UnicodeClass.codes_blames (u : UnicodeClass) :
    Result.Ends (fun _ => True) (SyntaxError.Blames pattern) (u.codes fs) := by
  unfold UnicodeClass.codes
  dsimp only
  repeat' split
  all_goals exact trivial

theorem Literal.classCode_blames (l : Literal) :
    Result.Ends (fun _ => True) (SyntaxError.Blames pattern) (l.classCode fs) := by
  unfold Literal.classCode
  repeat' split
  all_goals exact trivial

mutual

theorem ClassSet.codes_blames : ∀ set : ClassSet,
    Result.Ends (fun _ => True) (SyntaxError.Blames pattern) (set.codes fs)
  | .literal l => (Literal.classCode_blames pattern fs l).bind fun _ _ => trivial
  | .range _ lo hi =>
    (Literal.classCode_blames pattern fs lo).bind fun _ _ =>
      (Literal.classCode_blames pattern fs hi).bind fun _ _ => trivial
  | .ascii _ _ _ => trivial
  | .short _ _ _ => trivial
  | .unicode u => UnicodeClass.codes_blames pattern fs u
  | .bracketed _ _ set => (ClassSet.codes_blames set).bind fun _ _ => trivial
  | .union _ items => ClassSet.unionCodes_blames items
  | .combined _ op lhs rhs =>
    (ClassSet.codes_blames lhs).bind fun _ _ => (ClassSet.codes_blames rhs).bind fun _ _ => by
      cases op <;> exact trivial

theorem ClassSet.unionCodes_blames : ∀ items : List ClassSet,
    Result.Ends (fun _ => True) (SyntaxError.Blames pattern) (ClassSet.unionCodes fs items)
  | [] => trivial
  | item :: items =>
    (ClassSet.codes_blames item).bind fun _ _ =>
      (ClassSet.unionCodes_blames items).bind fun _ _ => trivial

end

mutual

theorem Tree.meaning_blames : ∀ (fs : Flags) (tree : Tree),
    Result.Ends (fun _ => True) (SyntaxError.Blames pattern) (tree.meaning fs)
  | _, .empty _ => trivial
  | _, .flags _ _ => trivial
  | _, .literal _ => trivial
  | _, .dot _ => trivial
  | _, .assertion _ _ => trivial
  | _, .short _ _ _ => trivial
  | fs, .unicode u => (UnicodeClass.codes_blames pattern fs u).bind fun _ _ => trivial
  | fs, .bracketed _ _ set => (ClassSet.codes_blames pattern fs set).bind fun _ _ => trivial
  | fs, .repetition _ _ _ sub => (Tree.meaning_blames fs sub).bind fun _ _ => trivial
  | fs, .group _ kind sub => (Tree.meaning_blames (kind.flags fs) sub).bind fun _ _ => trivial
  | fs, .alternation _ branches => Tree.choiceMeaning_blames fs branches
  | fs, .concat _ parts => Tree.sequenceMeaning_blames fs parts

theorem Tree.sequenceMeaning_blames : ∀ (fs : Flags) (trees : List Tree),
    Result.Ends (fun _ => True) (SyntaxError.Blames pattern) (Tree.sequenceMeaning fs trees)
  | _, [] => trivial
  | fs, tree :: trees =>
    (Tree.meaning_blames fs tree).bind fun first _ =>
      (Tree.sequenceMeaning_blames first.2 trees).bind fun _ _ => trivial

theorem Tree.choiceMeaning_blames : ∀ (fs : Flags) (trees : List Tree),
    Result.Ends (fun _ => True) (SyntaxError.Blames pattern) (Tree.choiceMeaning fs trees)
  | _, [] => trivial
  | fs, [tree] => Tree.meaning_blames fs tree
  | fs, tree :: next :: trees =>
    (Tree.meaning_blames fs tree).bind fun first _ =>
      (Tree.choiceMeaning_blames first.2 (next :: trees)).bind fun _ _ => trivial

end

/-- The fault of a pattern that does not compile is one of reading it or one of its meaning. -/
theorem analyse_blames (ignoreCase : Bool) :
    Result.Ends (fun _ => True) (SyntaxError.Blames pattern) (analyse pattern ignoreCase) :=
  (Tree.parse_blames pattern).bind fun tree _ =>
    (Tree.meaning_blames pattern (Flags.initial ignoreCase) tree).bind fun _ _ => trivial

end meaning

/-! ### What is told -/

namespace SyntaxError

variable {e : SyntaxError} {pattern : List Char}

/-- The place told is the one that the scan finds. -/
theorem position_of_diagnosis {summary : String} {position : Option Nat}
    (h : e.diagnosis pattern = .invalidQuantifier summary position) :
    position = invalidQuantifier? pattern := by
  unfold diagnosis at h
  dsimp only at h
  repeat' split at h
  all_goals cases h
  rfl

/-- So is the sequence told. -/
theorem sequence_of_diagnosis {sequence : String}
    (h : e.diagnosis pattern = .invalidEscape sequence) :
    invalidEscape? pattern = some sequence := by
  unfold diagnosis at h
  dsimp only at h
  split at h
  · cases h
  · cases h
  split at h
  · cases h
  split at h
  · cases h
  split at h
  · rename_i hfound
    cases h
    split at hfound
    · exact hfound
    · cases hfound
  · cases h

end SyntaxError

/-- Whether a pattern does not compile for an operator of repetition at a place, which has nothing
to repeat. -/
def CompileError.RefusesRepetition (cause : CompileError) (i : Nat) : Prop :=
  ∃ fault, cause = .malformed fault ∧ fault.fault = .repetitionMissing ∧
    fault.span.start.offset = i

/-- Whether a pattern does not compile for an escape sequence at a span, which is not recognized. -/
def CompileError.RefusesSequence (cause : CompileError) (s : Span) : Prop :=
  ∃ fault, cause = .malformed fault ∧ fault.fault = .escapeUnrecognized ∧ fault.span = s

/-- The diagnosis of a pattern that is not too big is that of a fault. -/
theorem PatternError.exists_fault {pattern : String} {ignoreCase : Bool} {e : PatternError}
    (h : compilePattern pattern ignoreCase = .error e) (hbig : e.diagnosis ≠ .tooBig) :
    ∃ fault : SyntaxError, e.cause = .malformed fault ∧ fault.Blames pattern.toList ∧
      e.diagnosis = fault.diagnosis pattern.toList := by
  obtain ⟨hpattern, hcause⟩ := cause_of_error h
  have hblames := analyse_blames pattern.toList ignoreCase
  cases ha : analyse pattern.toList ignoreCase with
  | ok meant =>
    rw [ha] at hcause
    exact absurd (by rw [PatternError.diagnosis, hcause.1]) hbig
  | error fault =>
    rw [ha] at hcause hblames
    exact ⟨fault, hcause, hblames, by rw [PatternError.diagnosis, hcause, hpattern]⟩

section fault

variable {pattern : List Char} {fault : SyntaxError} (hblames : fault.Blames pattern)
include hblames

theorem lacksOperand_of_refuses {i : Nat}
    (h : CompileError.RefusesRepetition (.malformed fault) i) : LacksOperand pattern i := by
  obtain ⟨_, ⟨⟩, hfault, rfl⟩ := h
  rw [SyntaxError.Blames, hfault] at hblames
  exact hblames

theorem looksUnknown_of_refuses {s : Span}
    (h : CompileError.RefusesSequence (.malformed fault) s) :
    LooksUnknown pattern s.start.offset ∧ s.stop.offset = s.start.offset + 2 := by
  obtain ⟨_, ⟨⟩, hfault, rfl⟩ := h
  rw [SyntaxError.Blames, hfault] at hblames
  exact hblames

/-- The scan finds the operator if it looks for its like and has found no other before. -/
theorem refusesRepetition_iff {i : Nat} (htold : invalidQuantifier? pattern = some i) :
    CompileError.RefusesRepetition (.malformed fault) i ↔
      ∃ place, CompileError.RefusesRepetition (.malformed fault) place ∧
        pattern[place]? ≠ some '{' ∧ SeemsRepeated pattern place := by
  obtain ⟨hmissing, hseems⟩ := invalidQuantifier?_eq_some_iff.mp htold
  constructor
  · intro hrefuses
    refine ⟨i, hrefuses, fun hbrace => ?_, hseems⟩
    have hoperator := hmissing.1
    rw [hbrace] at hoperator
    exact absurd hoperator (by decide)
  · rintro ⟨place, hrefuses, hbrace, hseems'⟩
    have hlooks := (lacksOperand_of_refuses hblames hrefuses).looksMissing hbrace hseems'
    have hfound := invalidQuantifier?_eq_some_iff.mpr ⟨hlooks, hseems'⟩
    rw [htold] at hfound
    cases hfound
    exact hrefuses

/-- The scan finds the escape sequence if the first that it finds before, if any, reads the same. -/
theorem refusesSequence_iff {sequence : String} (htold : invalidEscape? pattern = some sequence) :
    (∃ s, CompileError.RefusesSequence (.malformed fault) s ∧
        sequence = excerpt pattern s.start.offset s.stop.offset) ↔
      ∃ s, CompileError.RefusesSequence (.malformed fault) s ∧
        ∀ i < s.start.offset, LooksUnknown pattern i → SeemsKnown pattern i →
          excerpt pattern i (i + 2) = excerpt pattern s.start.offset s.stop.offset := by
  obtain ⟨first, hunknown, hseems, rfl⟩ := invalidEscape?_eq_some_iff.mp htold
  refine exists_congr fun s => and_congr_right fun hrefuses => ?_
  obtain ⟨hlooks, hsize⟩ := looksUnknown_of_refuses hblames hrefuses
  constructor
  · intro htext i _ hi hseems'
    have hfirst : i = first := Nat.le_antisymm
      (Nat.le_of_not_lt fun hlt => hseems' first hlt hunknown)
      (Nat.le_of_not_lt fun hlt => hseems i hlt hi)
    rw [hfirst]
    exact htext
  · intro hearlier
    have hle : first ≤ s.start.offset := Nat.le_of_not_lt fun hlt => hseems _ hlt hlooks
    rcases Nat.lt_or_eq_of_le hle with hlt | heq
    · exact hearlier first hlt hunknown hseems
    · rw [hsize, heq]

end fault

/-- **Where a quantifier or an escape sequence is told to be wrong.** The place told is the first at
which an operator of repetition stands at the beginning or right behind a parenthesis or a bar, and
none is told only if there is no such place. The pattern is refused for the operator at the place
told just if it is refused for one that has nothing to repeat, other than a count, and no place
before that one looks so. The sequence told is the first that looks unknown. The pattern is refused
for that sequence just if it is refused for one that is not recognized, and the first before it that
looks unknown, if there is one, reads the same. -/
theorem compilePattern_points {pattern : String} {ignoreCase : Bool} {e : PatternError}
    (h : compilePattern pattern ignoreCase = .error e) :
    (∀ summary position, e.diagnosis = .invalidQuantifier summary position →
      (∀ i, position = some i ↔ LooksMissing pattern.toList i ∧ SeemsRepeated pattern.toList i) ∧
      ∀ i, position = some i →
        (e.cause.RefusesRepetition i ↔ ∃ place, e.cause.RefusesRepetition place ∧
          pattern.toList[place]? ≠ some '{' ∧ SeemsRepeated pattern.toList place)) ∧
    ∀ sequence, e.diagnosis = .invalidEscape sequence →
      (∃ i, LooksUnknown pattern.toList i ∧ SeemsKnown pattern.toList i ∧
        sequence = excerpt pattern.toList i (i + 2)) ∧
      ((∃ s, e.cause.RefusesSequence s ∧
          sequence = excerpt pattern.toList s.start.offset s.stop.offset) ↔
        ∃ s, e.cause.RefusesSequence s ∧ ∀ i < s.start.offset, LooksUnknown pattern.toList i →
          SeemsKnown pattern.toList i → excerpt pattern.toList i (i + 2) =
            excerpt pattern.toList s.start.offset s.stop.offset) := by
  constructor
  · intro summary position htold
    obtain ⟨fault, hcause, hblames, hdiagnosis⟩ :=
      PatternError.exists_fault h (by rw [htold]; exact Diagnosis.noConfusion)
    rw [hdiagnosis] at htold
    obtain rfl := SyntaxError.position_of_diagnosis htold
    rw [hcause]
    exact ⟨fun _ => invalidQuantifier?_eq_some_iff, fun _ => refusesRepetition_iff hblames⟩
  · intro sequence htold
    obtain ⟨fault, hcause, hblames, hdiagnosis⟩ :=
      PatternError.exists_fault h (by rw [htold]; exact Diagnosis.noConfusion)
    rw [hdiagnosis] at htold
    have hfound := SyntaxError.sequence_of_diagnosis htold
    rw [hcause]
    exact ⟨invalidEscape?_eq_some_iff.mp hfound, refusesSequence_iff hblames hfound⟩

/-- In the first pattern there is nothing between the bar and the operator; in the second the first
escape sequence is a line feed, and the other is not recognized. -/
theorem compilePattern_points_sample :
    let missing : SyntaxError := ⟨.repetitionMissing, ⟨⟨3, 1, 4⟩, ⟨3, 1, 4⟩⟩, none⟩
    let unrecognized : SyntaxError := ⟨.escapeUnrecognized, ⟨⟨2, 1, 3⟩, ⟨4, 1, 5⟩⟩, none⟩
    let first : PatternError := ⟨"a*|+", .malformed missing⟩
    let second : PatternError := ⟨"\\n\\y", .malformed unrecognized⟩
    (compilePattern "a*|+" false = .error first ∧
      first.diagnosis = .invalidQuantifier missing.summary (some 3) ∧
        first.cause.RefusesRepetition 3) ∧
    (compilePattern "\\n\\y" true = .error second ∧ second.diagnosis = .invalidEscape "\\y" ∧
      ∃ s, second.cause.RefusesSequence s ∧
        "\\y" = excerpt "\\n\\y".toList s.start.offset s.stop.offset) := by
  intro missing unrecognized first second
  have hfirst : compilePattern "a*|+" false = .error first := rfl
  have hsecond : compilePattern "\\n\\y" true = .error second := rfl
  have hplace : first.diagnosis = .invalidQuantifier missing.summary (some 3) := by
    decide +kernel
  have hsequence : second.diagnosis = .invalidEscape "\\y" := by decide +kernel
  refine ⟨⟨hfirst, hplace, ?_⟩, hsecond, hsequence, ?_⟩
  · refine (((compilePattern_points hfirst).1 _ _ hplace).2 3 rfl).mpr ⟨3, ?_, ?_, ?_⟩
    · exact ⟨missing, rfl, rfl, rfl⟩
    · decide +kernel
    · decide +kernel
  · have hknown : SeemsKnown "\\n\\y".toList 2 := by decide +kernel
    refine ((compilePattern_points hsecond).2 _ hsequence).2.mpr ⟨unrecognized.span, ?_, ?_⟩
    · exact ⟨unrecognized, rfl, rfl, rfl⟩
    · exact fun i hi hunknown => absurd hunknown (hknown i hi)

/-- In the first pattern the question mark of the flags is told, not the operator behind them; in
the second a blank behind a backslash is told, which the reader accepts, not the letter. -/
theorem compilePattern_points_of_flags :
    let missing : SyntaxError := ⟨.repetitionMissing, ⟨⟨4, 1, 5⟩, ⟨4, 1, 5⟩⟩, none⟩
    let unrecognized : SyntaxError := ⟨.escapeUnrecognized, ⟨⟨2, 1, 3⟩, ⟨4, 1, 5⟩⟩, none⟩
    let first : PatternError := ⟨"(?i)+a", .malformed missing⟩
    let second : PatternError := ⟨"\\ \\y", .malformed unrecognized⟩
    (compilePattern "(?i)+a" false = .error first ∧
      first.diagnosis = .invalidQuantifier missing.summary (some 1) ∧
        ¬ first.cause.RefusesRepetition 1) ∧
    (compilePattern "\\ \\y" false = .error second ∧ second.diagnosis = .invalidEscape "\\ " ∧
      (Tree.parse "\\ ".toList).isOk = true ∧
        ¬ ∃ s, second.cause.RefusesSequence s ∧
          "\\ " = excerpt "\\ \\y".toList s.start.offset s.stop.offset) := by
  intro missing unrecognized first second
  have hplace : first.diagnosis = .invalidQuantifier missing.summary (some 1) := by
    decide +kernel
  have hsequence : second.diagnosis = .invalidEscape "\\ " := by decide +kernel
  refine ⟨⟨rfl, hplace, ?_⟩, rfl, hsequence, ?_, ?_⟩
  · rintro ⟨fault, hcause, -, hstart⟩
    cases hcause
    exact absurd hstart (by decide)
  · decide +kernel
  · rintro ⟨s, ⟨fault, hcause, -, hspan⟩, htext⟩
    cases hcause
    cases hspan
    exact absurd htext (by decide +kernel)

end Regex
end StreamEditor
