/-
# Where a delimiter is never closed

The reader of patterns blames the innermost group that is still open at the end, and in a plain
pattern the scan for an unclosed parenthesis has the same groups on its stack all along: one step of
the reader keeps them together (`step_outcome`), and so does a whole reading (`loop_outcome`). So
the diagnosis tells of the delimiter that the reader blames (`compilePattern_unclosed`).

Key definitions: `Regex.Tree.Tracks`, `Regex.Tree.Located`.
Key theorem: `Regex.compilePattern_unclosed`.
-/
import StreamEditor.Proofs.Regex.Classification
import StreamEditor.Proofs.Regex.Plain.Group

namespace StreamEditor
namespace Regex
namespace Tree

open Cursor SyntaxError

variable {pattern : List Char} {r next : Reader} {c d : Cursor} {ch : Char} {cs : List Char}

/-- What the scans have in common with a reader: from its cursor on they come to what they come to
from the beginning, the scan for groups with the places of the open groups on its stack. -/
structure Tracks (pattern : List Char) (r : Reader) : Prop where
  plain : r.cursor.Plain false
  spaced : ∀ o ∈ r.opened, o.verbose = false
  placed : ∃ text, pattern = text ++ r.cursor.rest ∧ r.cursor.pos.offset = text.length
  parentheses : ∀ o ∈ r.opened, pattern[o.span.start.offset]? = some '('
  groups : unclosedDelimiter? pattern '(' ')' =
    r.cursor.scanGroups false (r.opened.map fun o => o.span.start.offset)
  classes : unclosedDelimiter? pattern '[' ']' = r.cursor.scanClasses []

/-- A fault by which a delimiter is never closed is at an opening delimiter of the pattern, and the
scan finds the same one. -/
def Located (pattern : List Char) (e : SyntaxError) : Prop :=
  (e.fault = .groupUnclosed → pattern[e.span.start.offset]? = some '(' ∧
    unclosedDelimiter? pattern '(' ')' = some e.span.start.offset) ∧
  (e.fault = .classUnclosed → pattern[e.span.start.offset]? = some '[' ∧
    unclosedDelimiter? pattern '[' ']' = some e.span.start.offset)

theorem Located.of_closed (pattern : List Char) (e : SyntaxError) (h : e.Closed) :
    Located pattern e :=
  ⟨fun heq => absurd heq (closed_iff.mp h).1, fun heq => absurd heq (closed_iff.mp h).2⟩

/-- What a step of the reader comes to. -/
def Outcome (pattern : List Char) (r : Reader) : Except SyntaxError Reader → Prop :=
  Result.Ends
    (fun next => Tracks pattern next ∧ next.cursor.rest.length < r.cursor.rest.length)
    (Located pattern)

theorem Tracks.getElem?_offset (h : Tracks pattern r) (hrest : r.cursor.rest = ch :: cs) :
    pattern[r.cursor.pos.offset]? = some ch := by
  obtain ⟨text, rfl, hoffset⟩ := h.placed
  rw [hoffset, hrest]
  simp

theorem placed_of_read (hplaced : ∃ text, pattern = text ++ c.rest ∧ c.pos.offset = text.length)
    (hread : ∃ text, c.rest = text ++ d.rest ∧ d.pos.offset = c.pos.offset + text.length) :
    ∃ text, pattern = text ++ d.rest ∧ d.pos.offset = text.length := by
  obtain ⟨text, hpattern, hoffset⟩ := hplaced
  obtain ⟨more, hrest, hoffset'⟩ := hread
  refine ⟨text ++ more, ?_, ?_⟩
  · rw [hpattern, hrest, List.append_assoc]
  · rw [hoffset', hoffset, List.length_append]

/-- Where the reader advances without a group opened or closed, the scans follow. -/
theorem Tracks.outcome_of_advances (h : Tracks pattern r)
    (hcursor : r.cursor.Advances false next.cursor) (hopened : next.opened = r.opened) :
    Outcome pattern r (.ok next) := by
  refine ⟨⟨hcursor.plain, ?_, placed_of_read h.placed hcursor.read, ?_, ?_, ?_⟩, hcursor.shorter⟩
  · rw [hopened]
    exact h.spaced
  · rw [hopened]
    exact h.parentheses
  · rw [hopened, h.groups]
    exact hcursor.groups _
  · rw [h.classes]
    exact hcursor.classes 0

/-! ### Repetitions -/

theorem popRepeated_ends (b : Body) (c : Cursor) :
    Result.Ends (fun _ => True) Closed (popRepeated b c) := by
  unfold popRepeated
  split
  · exact rfl
  · split
    · exact rfl
    · trivial

theorem repeated_advances (part : Tree) (range : RepeatRange) (h : c.Advances false d) :
    c.Advances false (repeated part range d).2 := by
  unfold repeated
  dsimp only
  split
  · rename_i hlazy
    obtain ⟨cs, hrest⟩ := rest_of_head? hlazy
    exact h.bump hrest (by decide)
  · exact h

theorem repeatBy_outcome (range : RepeatRange) (h : Tracks pattern r)
    (hrest : r.cursor.rest = ch :: cs) (hch : ch ∉ special false) :
    Outcome pattern r (r.repeatBy range) := by
  have hbump := h.plain.advances_bump hrest hch
  have hpop := (popRepeated_ends r.body r.cursor).mono_fault (Located.of_closed pattern)
  unfold Reader.repeatBy
  exact hpop.bind fun popped _ =>
    h.outcome_of_advances (repeated_advances popped.1 range hbump) rfl

theorem repeatCounted_outcome (h : Tracks pattern r) (hrest : r.cursor.rest = '{' :: cs) :
    Outcome pattern r r.repeatCounted := by
  have hpop := (popRepeated_ends r.body r.cursor).mono_fault (Located.of_closed pattern)
  have hcounts := (readCounts_read h.plain hrest).mono_fault (Located.of_closed pattern)
  unfold Reader.repeatCounted
  refine hpop.bind fun popped _ => hcounts.bind fun counts hread => ?_
  obtain ⟨hadvances, cs', hbrace⟩ := hread
  have hend := repeated_advances popped.1 counts.1 (hadvances.next hbrace (by decide))
  dsimp only
  split
  · split
    · exact h.outcome_of_advances hend rfl
    · exact .of_closed _ _ rfl
  · exact h.outcome_of_advances hend rfl

/-! ### Groups -/

theorem withVerbose_eq {verbose : Bool} (h : c.verbose = verbose) : { c with verbose } = c := by
  cases h
  rfl

theorem read_behind (hrest : c.rest = ch :: cs) (h : c.bump.Passes false d) :
    ∃ text, c.rest = text ++ d.rest ∧ d.pos.offset = c.pos.offset + text.length := by
  obtain ⟨text, hread, hoffset⟩ := h.read
  refine ⟨ch :: text, ?_, ?_⟩
  · rw [hrest, ← bump_rest hrest, hread, List.cons_append]
  · rw [hoffset, bump_offset hrest, List.length_cons]
    omega

theorem shorter_behind (hrest : c.rest = ch :: cs) (h : c.bump.Passes false d) :
    d.rest.length < c.rest.length := by
  have hlength := h.length_le
  rw [bump_rest hrest] at hlength
  rw [hrest, List.length_cons]
  omega

/-- A group is opened in the reader and in the scan. -/
theorem outcome_of_enter (h : Tracks pattern r) (hrest : r.cursor.rest = '(' :: cs)
    (hpasses : r.cursor.bump.Passes false next.cursor) {o : Opened}
    (hspan : o.span = r.cursor.charSpan) (hspaced : o.verbose = false)
    (hopened : next.opened = o :: r.opened) : Outcome pattern r (.ok next) := by
  have hplace : o.span.start.offset = r.cursor.pos.offset := by rw [hspan, charSpan]
  refine ⟨⟨hpasses.plain, ?_, placed_of_read h.placed (read_behind hrest hpasses), ?_, ?_, ?_⟩,
    shorter_behind hrest hpasses⟩
  · rw [hopened]
    exact List.forall_mem_cons.mpr ⟨hspaced, h.spaced⟩
  · rw [hopened]
    exact List.forall_mem_cons.mpr ⟨hplace ▸ h.getElem?_offset hrest, h.parentheses⟩
  · rw [h.groups, hopened, List.map_cons, hplace, scanGroups_open hrest]
    exact hpasses.groups _
  · rw [h.classes, scanClasses_parenthesis hrest (.inl rfl)]
    exact hpasses.classes 0

/-- A list of flags opens a parenthesis and closes it again. -/
theorem advances_of_flags (hrest : c.rest = '(' :: cs) (hpasses : c.bump.Passes false d)
    {cs' : List Char} (hlast : d.rest = ')' :: cs') : c.Advances false d.bump := by
  obtain ⟨text, hread, hoffset⟩ := read_behind hrest hpasses
  refine ⟨⟨hpasses.plain.bump_close hlast, ⟨text ++ [')'], ?_, ?_⟩, fun stack => ?_,
    fun _ => ?_⟩, ?_⟩
  · rw [hread, hlast, bump_rest hlast, List.append_assoc, List.singleton_append]
  · rw [bump_offset hlast, hoffset, List.length_append, List.length_singleton, Nat.add_assoc]
  · calc c.scanGroups false stack
        = c.bump.scanGroups false (c.pos.offset :: stack) := scanGroups_open hrest stack
      _ = d.scanGroups false (c.pos.offset :: stack) := hpasses.groups _
      _ = d.bump.scanGroups false stack := scanGroups_close hlast _
  · calc c.scanClasses [] = c.bump.scanClasses [] := scanClasses_parenthesis hrest (.inl rfl)
      _ = d.scanClasses [] := hpasses.classes 0
      _ = d.bump.scanClasses [] := scanClasses_parenthesis hlast (.inr rfl)
  · have hshorter := shorter_behind hrest hpasses
    rw [hlast, List.length_cons] at hshorter
    rw [bump_rest hlast]
    omega

theorem openGroup_outcome (h : Tracks pattern r) (hrest : r.cursor.rest = '(' :: cs) :
    Outcome pattern r r.openGroup := by
  have hhead := readHead_read h.plain hrest
  have hlocated : ∀ e, HeadOpen r.cursor.charSpan r.cursor.bump e → Located pattern e := by
    intro e he
    refine ⟨fun heq => ?_, fun heq => absurd heq he.1⟩
    obtain ⟨hspan, last, hpasses, hend⟩ := he.2 heq
    rw [hspan]
    refine ⟨h.getElem?_offset hrest, ?_⟩
    rw [h.groups, scanGroups_open hrest, hpasses.groups, Cursor.scanGroups, hend]
    rfl
  unfold Reader.openGroup
  refine (hhead.mono_fault hlocated).bind fun read hread => ?_
  obtain ⟨head, d⟩ := read
  cases head with
  | setFlags items =>
    obtain ⟨hverbose, last, cs', hpasses, hlast, rfl⟩ := hread
    have hadvances := advances_of_flags hrest hpasses hlast
    refine h.outcome_of_advances ?_ rfl
    dsimp only
    rw [flagValue?_eq_none true hverbose, Option.getD_none]
    exact hadvances
  | plain items =>
    obtain ⟨hverbose, hpasses⟩ := hread
    refine outcome_of_enter h hrest ?_ rfl hpasses.plain.spaced rfl
    unfold Reader.enter
    dsimp only
    rw [flagValue?_eq_none true hverbose, Option.getD_none]
    exact hpasses
  | capture => exact outcome_of_enter h hrest hread rfl hread.plain.spaced rfl
  | named name span =>
    dsimp only
    split
    · exact .of_closed _ _ rfl
    · exact outcome_of_enter h hrest hread rfl hread.plain.spaced rfl

theorem closeGroup_outcome (h : Tracks pattern r) (hrest : r.cursor.rest = ')' :: cs) :
    Outcome pattern r r.closeGroup := by
  unfold Reader.closeGroup
  dsimp only
  split
  · exact .of_closed _ _ rfl
  · rename_i o rest hopened
    have hspaced := h.spaced
    have hparentheses := h.parentheses
    have hgroups := h.groups
    rw [hopened] at hspaced hparentheses hgroups
    obtain ⟨ho, hspaced⟩ := List.forall_mem_cons.mp hspaced
    have hplain := h.plain.bump_close hrest
    rw [ho, withVerbose_eq hplain.spaced]
    refine ⟨⟨hplain, hspaced, placed_of_read h.placed ⟨[')'], read_bump hrest⟩,
      (List.forall_mem_cons.mp hparentheses).2, ?_, ?_⟩, ?_⟩
    · rw [hgroups, List.map_cons, scanGroups_close hrest, List.tail_cons]
    · rw [h.classes, scanClasses_parenthesis hrest (.inr rfl)]
    · rw [bump_rest hrest, hrest]
      exact Nat.lt_succ_self _

/-! ### One step -/

theorem readSingle_reads (h : c.Plain false) (hrest : c.rest = ch :: cs)
    (hch : ch ∉ ['[', '(', ')']) : c.Reads Closed false (readSingle c) := by
  unfold readSingle
  split
  · rename_i hescape
    exact Escape.read_reads h hescape
  · rename_i hdot
    exact h.advances_bump hdot (by decide)
  · rename_i hcaret
    exact h.advances_bump hcaret (by decide)
  · rename_i hdollar
    exact h.advances_bump hdollar (by decide)
  · rename_i ch' cs' hbackslash _ _ _ hliteral
    rw [hrest] at hliteral
    cases hliteral
    have hspecial : ch ∉ special false := by
      rw [special, List.mem_cons, not_or]
      exact ⟨hbackslash, hch⟩
    exact h.advances_bump hrest hspecial
  · rename_i hend
    rw [hrest] at hend
    cases hend

theorem bracket_located (h : Tracks pattern r) (hrest : r.cursor.rest = '[' :: cs)
    (e : SyntaxError) (he : Bracket.UnclosedAt r.cursor e) : Located pattern e := by
  refine ⟨fun heq => absurd heq he.1, fun heq => ?_⟩
  obtain ⟨hstart, hscan⟩ := he.2 heq
  rw [hstart, h.classes]
  exact ⟨h.getElem?_offset hrest, hscan⟩

/-- **One step of the reader keeps the scans with it,** or ends in a fault that the scans locate. -/
theorem step_outcome (h : Tracks pattern r) (hrest : r.cursor.rest = ch :: cs) :
    Outcome pattern r (step r ch) := by
  unfold step
  split
  · exact openGroup_outcome h hrest
  · exact closeGroup_outcome h hrest
  · exact h.outcome_of_advances (h.plain.advances_bump hrest (by decide)) rfl
  · refine ((Bracket.read_reads h.plain hrest).mono_fault (bracket_located h hrest)).bind
      fun read hread => ?_
    exact h.outcome_of_advances hread rfl
  · exact repeatBy_outcome _ h hrest (by decide)
  · exact repeatBy_outcome _ h hrest (by decide)
  · exact repeatBy_outcome _ h hrest (by decide)
  · exact repeatCounted_outcome h hrest
  · rename_i hopen hclose _ hopening _ _ _ _
    have hch : ch ∉ ['[', '(', ')'] := by
      simp only [List.mem_cons, List.not_mem_nil, or_false, not_or]
      exact ⟨hopening, hopen, hclose⟩
    refine ((readSingle_reads h.plain hrest hch).mono_fault (Located.of_closed pattern)).bind
      fun read hread => ?_
    exact h.outcome_of_advances hread rfl

/-! ### The pattern -/

/-- **So does a whole reading,** which comes to the end of the pattern. -/
theorem loop_outcome (fuel : Nat) (h : Tracks pattern r) (hfuel : r.cursor.rest.length < fuel) :
    Result.Ends (fun last => Tracks pattern last ∧ last.cursor.rest = []) (Located pattern)
      (loop fuel r) := by
  induction fuel generalizing r with
  | zero => exact absurd hfuel (Nat.not_lt_zero _)
  | succ fuel ih =>
    unfold loop
    dsimp only
    rw [h.plain.skip_eq]
    split
    · rename_i hend
      exact ⟨h, hend⟩
    · rename_i ch cs hrest
      refine (step_outcome h hrest).bind fun next hnext => ih hnext.1 ?_
      have hshorter := hnext.2
      omega

/-- The reader at the beginning of a pattern. -/
def Reader.ofPattern (pattern : List Char) : Reader :=
  ⟨Cursor.ofPattern pattern, 0, [], Body.fresh (Cursor.ofPattern pattern).pos, []⟩

theorem tracks_ofPattern (h : PlainPattern pattern) :
    Tracks pattern (Reader.ofPattern pattern) :=
  ⟨⟨h, rfl⟩, nofun, ⟨[], rfl, rfl⟩, nofun, rfl, rfl⟩

/-- At the end of the pattern the innermost open group is the one that the scan finds. -/
theorem finish_located (h : Tracks pattern r) (hend : r.cursor.rest = []) :
    Result.Ends (fun _ => True) (Located pattern) (finish r) := by
  unfold finish
  split
  · trivial
  · rename_i o rest hopened
    have hparentheses := h.parentheses
    have hgroups := h.groups
    rw [hopened] at hparentheses hgroups
    refine ⟨fun _ => ⟨(List.forall_mem_cons.mp hparentheses).1, ?_⟩, nofun⟩
    rw [hgroups, Cursor.scanGroups, hend]
    rfl

/-- **The scans locate the delimiter** for which a plain pattern is refused. -/
theorem located_of_parse {e : SyntaxError} (h : PlainPattern pattern)
    (he : parse pattern = .error e) : Located pattern e := by
  have hread : Result.Ends (fun _ => True) (Located pattern) (parse pattern) := by
    unfold parse
    refine (loop_outcome _ (tracks_ofPattern h) (Nat.lt_succ_self _)).bind fun last hlast => ?_
    refine (finish_located hlast.1 hlast.2).bind fun tree _ => ?_
    split
    · exact .of_closed _ _ rfl
    · trivial
  rw [he] at hread
  exact hread

end Tree

/-- **The delimiter that is never closed, in a plain pattern.** If the pattern is refused for a
group then the diagnosis tells of the parenthesis that opens it, the innermost that is still open;
if it is refused for a class, the diagnosis tells of the bracket that opens it, unless the pattern
itself speaks of an unclosed group and has one. -/
theorem compilePattern_unclosed {pattern : String} {fault : SyntaxError}
    (hplain : PlainPattern pattern.toList) (hparse : Tree.parse pattern.toList = .error fault)
    (ignoreCase : Bool) :
    let e : PatternError := ⟨pattern, .malformed fault⟩
    let offset := fault.span.start.offset
    compilePattern pattern ignoreCase = .error e ∧
      (fault.fault = .groupUnclosed →
        pattern.toList[offset]? = some '(' ∧ e.diagnosis = .unclosedDelimiter '(' offset) ∧
      (fault.fault = .classUnclosed →
        pattern.toList[offset]? = some '[' ∧
          (e.diagnosis = .unclosedDelimiter '[' offset ↔
            ¬ (Kind.Named .group pattern.toList ∧ Kind.Found pattern.toList .group))) := by
  intro e offset
  obtain ⟨hgroup, hclass⟩ := Tree.located_of_parse hplain hparse
  refine ⟨?_, fun heq => ?_, fun heq => ?_⟩
  · unfold compilePattern compile analyse
    rw [hparse]
    rfl
  · obtain ⟨hopening, hscan⟩ := hgroup heq
    have hnamed := (Kind.named_text_iff .group fault pattern.toList).mpr (.inr (by rw [heq]; rfl))
    exact ⟨hopening, SyntaxError.diagnosis_group hnamed hscan⟩
  · obtain ⟨hopening, hscan⟩ := hclass heq
    have hnamed := (Kind.named_text_iff .bracket fault pattern.toList).mpr (.inr (by rw [heq]; rfl))
    have hcandidate : fault.Candidate pattern.toList .group ↔
        Kind.Named .group pattern.toList ∧ Kind.Found pattern.toList .group := by
      rw [SyntaxError.Candidate, heq]
      exact and_congr_left' (or_iff_left nofun)
    rw [← hcandidate]
    refine ⟨hopening, fun htold hother => ?_,
      fun hother => SyntaxError.diagnosis_bracket hother hnamed hscan⟩
    have htells := (fault.kind?_diagnosis_iff pattern.toList .group).mpr ⟨hother, nofun⟩
    change (fault.diagnosis pattern.toList).kind? = _ at htells
    change fault.diagnosis pattern.toList = _ at htold
    rw [htold] at htells
    cases htells

/-- In the first pattern one parenthesis is escaped, another stands in a class, and the one between
them is never closed; in the second the class is never closed. -/
theorem compilePattern_unclosed_sample :
    let unclosedGroup : SyntaxError := ⟨.groupUnclosed, ⟨⟨2, 1, 3⟩, ⟨3, 1, 4⟩⟩, none⟩
    let unclosedClass : SyntaxError := ⟨.classUnclosed, ⟨⟨3, 1, 4⟩, ⟨4, 1, 5⟩⟩, none⟩
    let first : PatternError := ⟨"\\((?<n>[(b]c", .malformed unclosedGroup⟩
    let second : PatternError := ⟨"(a)[b(c", .malformed unclosedClass⟩
    (compilePattern "\\((?<n>[(b]c" false = .error first ∧
      first.diagnosis = .unclosedDelimiter '(' 2) ∧
    (compilePattern "(a)[b(c" true = .error second ∧
      second.diagnosis = .unclosedDelimiter '[' 3) := by
  intro unclosedGroup unclosedClass first second
  have hfirst : Tree.parse "\\((?<n>[(b]c".toList = .error unclosedGroup := by
    rw [String.toList_ofList]
    rfl
  have hsecond : Tree.parse "(a)[b(c".toList = .error unclosedClass := by
    rw [String.toList_ofList]
    rfl
  obtain ⟨hrefused, hgroup, -⟩ := compilePattern_unclosed (by decide +kernel) hfirst false
  obtain ⟨hrefused', -, hclass⟩ := compilePattern_unclosed (by decide +kernel) hsecond true
  have hwords : ¬ Kind.Named .group "(a)[b(c".toList := by decide +kernel
  exact ⟨⟨hrefused, (hgroup rfl).2⟩, hrefused', (hclass rfl).2.mpr fun h => hwords h.1⟩

/-- A closing bracket that stands for itself ends the class for the scans, so that they do not find
the class, nor the group around one. -/
theorem compilePattern_unclosed_of_literal :
    let unclosedClass : SyntaxError := ⟨.classUnclosed, ⟨⟨0, 1, 1⟩, ⟨2, 1, 3⟩⟩, none⟩
    let unclosedGroup : SyntaxError := ⟨.groupUnclosed, ⟨⟨0, 1, 1⟩, ⟨1, 1, 2⟩⟩, none⟩
    let first : PatternError := ⟨"[]a", .malformed unclosedClass⟩
    let second : PatternError := ⟨"([])]", .malformed unclosedGroup⟩
    (compilePattern "[]a" false = .error first ∧
      first.diagnosis = .malformed "error: unclosed character class") ∧
    (compilePattern "([])]" false = .error second ∧
      second.diagnosis = .malformed "error: unclosed group") := by
  intro unclosedClass unclosedGroup first second
  have hfirst : first.diagnosis = .malformed "error: unclosed character class" := by
    decide +kernel
  have hsecond : second.diagnosis = .malformed "error: unclosed group" := by decide +kernel
  exact ⟨⟨rfl, hfirst⟩, rfl, hsecond⟩

end Regex
end StreamEditor
