/-
# What a run writes, line by line

A run writes, for each physical line of its input, what the substitution makes of that line under
its number (`Substitution.emissions`), and nothing else; it counts the lines, the copies it writes,
and the lines it writes in which the pattern matches (`run_line_by_line`). This holds of every
substitution, of every way in which the input arrives and of every way in which the sink takes
the output, as long as neither fails.

Key definitions: `Substitution.texts`, `Substitution.emissions`, `Substitution.changes`.
Key theorem: `Processor.run_line_by_line`.
-/
import StreamEditor.Proofs.Processor.Run
import StreamEditor.Proofs.Regex.Matches
import StreamEditor.Proofs.Stream.Reading

namespace StreamEditor

/-! ### What becomes of a line -/

namespace Substitution

variable (s : Substitution)

/-- Whether the pattern matches in a line. -/
def matched (line : Bytes) : Bool := !(s.pattern.allMatches line).isEmpty

/-- A line with all matches replaced. -/
def allReplaced (line : Bytes) : Bytes :=
  s.pattern.withReplaced s.replacement line (s.pattern.allMatches line)

/-- A line with its first match replaced. -/
def firstReplaced (line : Bytes) : Bytes :=
  s.pattern.withReplaced s.replacement line ((s.pattern.allMatches line).take 1)

/-- The texts written for a line in scope, where `restricted` tells whether only the lines of a
range are. Under the reference semantics the flag has no effect. -/
def texts (restricted : Bool) (line : Bytes) : List Bytes :=
  match s.semantics, s.flag with
  | .reference, _ => [s.allReplaced line]
  | .sed, .none => [s.firstReplaced line]
  | .sed, .global => [s.allReplaced line]
  | .sed, .globalIgnoreCase => [s.allReplaced line]
  | .sed, .delete => if s.matched line then [] else [line]
  | .sed, .print =>
    if s.matched line && !restricted then [s.firstReplaced line, s.firstReplaced line]
    else [s.firstReplaced line]

/-- What is written for line `i`. A run restricted to a range writes the lines of the range alone,
each behind its number and a tab. -/
def emissions (selecting : Bool) (i : Nat) (line : Bytes) : List Bytes :=
  match selecting, s.range with
  | true, some range =>
    if range.contains i then (s.texts true line).map fun text => decimalBytes i ++ 9 :: text else []
  | _, _ => s.texts false line

/-- Whether line `i` is written and the pattern matches in it. -/
def changes (selecting : Bool) (i : Nat) (line : Bytes) : Bool :=
  !(s.emissions selecting i line).isEmpty && s.matched line

theorem isSome_replaceAll? (line : Bytes) :
    (s.pattern.replaceAll? s.replacement line).isSome = s.matched line := by
  rw [Regex.replaceAll?_eq, matched]
  cases (s.pattern.allMatches line).isEmpty <;> rfl

theorem isSome_replaceFirst? (line : Bytes) :
    (s.pattern.replaceFirst? s.replacement line).isSome = s.matched line := by
  rw [Regex.replaceFirst?_eq, matched]
  cases (s.pattern.allMatches line).isEmpty <;> rfl

theorem getD_replaceAll? (line : Bytes) :
    (s.pattern.replaceAll? s.replacement line).getD line = s.allReplaced line := by
  rw [Regex.replaceAll?_eq, allReplaced]
  cases h : s.pattern.allMatches line <;> simp

theorem getD_replaceFirst? (line : Bytes) :
    (s.pattern.replaceFirst? s.replacement line).getD line = s.firstReplaced line := by
  rw [Regex.replaceFirst?_eq, firstReplaced]
  cases h : s.pattern.allMatches line <;> simp

theorem kept_all (number : Option Nat) (line : Bytes) :
    kept line number false (s.pattern.replaceAll? s.replacement line) =
      .kept (s.allReplaced line) (s.matched line) number false := by
  rw [kept, getD_replaceAll?, isSome_replaceAll?, Bool.false_and]

theorem kept_first (number : Option Nat) (twice : Bool) (line : Bytes) :
    kept line number twice (s.pattern.replaceFirst? s.replacement line) =
      .kept (s.firstReplaced line) (s.matched line) number (twice && s.matched line) := by
  rw [kept, getD_replaceFirst?, isSome_replaceFirst?]

/-- **What an edit makes of a line in scope**: the copies are those of its texts, and the line
counts as changed if it has any and the pattern matches. -/
theorem edit_eq (doubling : Bool) (number : Option Nat) (line : Bytes) :
    (s.edit doubling number line).copies.map List.flatten =
        (s.texts (!doubling) line).map (fun text => (numbered number text).flatten) ∧
      (s.edit doubling number line).isChange =
        (!(s.texts (!doubling) line).isEmpty && s.matched line) := by
  have hmatch : s.pattern.isMatch line = s.matched line := s.pattern.isMatch_iff line
  unfold edit texts
  cases hs : s.semantics with
  | reference => cases s.flag <;> simp [kept_all, LineResult.copies, LineResult.isChange]
  | sed =>
    cases hf : s.flag with
    | none => simp [kept_first, LineResult.copies, LineResult.isChange]
    | global => simp [kept_all, LineResult.copies, LineResult.isChange]
    | globalIgnoreCase => simp [kept_all, LineResult.copies, LineResult.isChange]
    | delete =>
      rw [hmatch]
      cases s.matched line <;> simp [LineResult.copies, LineResult.isChange]
    | print =>
      rw [kept_first]
      cases doubling <;> cases s.matched line <;> simp [LineResult.copies, LineResult.isChange]

end Substitution

namespace Processor

variable (s : Substitution) (selecting : Bool)

/-- **What becomes of line `i`** is what the substitution writes for it. -/
theorem line_eq (i : Nat) (line : Bytes) :
    ((ofSubstitution s selecting).line i line).copies.map List.flatten =
        s.emissions selecting i line ∧
      ((ofSubstitution s selecting).line i line).isChange = s.changes selecting i line := by
  unfold Processor.line inScope ofSubstitution Substitution.changes Substitution.emissions
  have hplain := s.edit_eq true none line
  cases selecting with
  | false => simpa [numbered] using hplain
  | true =>
    cases hr : s.range with
    | none => simpa [numbered, hr] using hplain
    | some range =>
      by_cases hc : range.contains i
      · simpa [numbered, hr, hc] using s.edit_eq false (some i) line
      · simp [hc, LineResult.copies, LineResult.isChange]

/-- The bytes of lines are the texts written for them, and the copies are as many as the texts. -/
theorem output_eq (lines : List Bytes) :
    (ofSubstitution s selecting).output 0 lines =
        (lines.mapIdx fun k line => s.emissions selecting (k + 1) line).flatten.flatten ∧
      (((ofSubstitution s selecting).results 0 lines).flatMap LineResult.copies).length =
        (lines.mapIdx fun k line => s.emissions selecting (k + 1) line).flatten.length ∧
      ((ofSubstitution s selecting).results 0 lines).countP (·.isChange) =
        (lines.mapIdx fun k line => s.changes selecting (k + 1) line).count true := by
  have hmap : (lines.mapIdx fun k line => s.emissions selecting (k + 1) line) =
      ((ofSubstitution s selecting).results 0 lines).map fun r => r.copies.map List.flatten := by
    simp only [map_results, Nat.zero_add, (line_eq s selecting _ _).1]
  have hcount : (lines.mapIdx fun k line => s.changes selecting (k + 1) line) =
      ((ofSubstitution s selecting).results 0 lines).map (·.isChange) := by
    simp only [map_results, Nat.zero_add, (line_eq s selecting _ _).2]
  rw [hmap, hcount]
  refine ⟨?_, ?_, ?_⟩
  · rw [output, List.flatten_flatten, List.map_map, ← List.flatMap_def]
    congr 1
    funext r
    simp [LineResult.bytes, List.flatten_flatten]
  · simp [List.length_flatten, List.map_map, Function.comp_def]
  · rw [List.count, List.countP_map]
    congr 1
    funext r
    simp

/-- A run over a source that delivers some bytes, into a sink that never fails, comes to what
becomes of their physical lines. -/
theorem run_delivered (p : Processor) {input : Bytes} {source : Source} {sink : Sink}
    (hsource : source.Delivers input) (hsink : sink.Unfailing) :
    (p.run source sink).out = p.output 0 (physicalLines input) ∧
      (p.run source sink).result =
        .ok (Stats.after ⟨0, 0, 0⟩ (p.results 0 (physicalLines input))) ∧
      (p.run source sink).progress.line = (physicalLines input).length := by
  obtain ⟨hlines, hend⟩ := Source.lines_of_delivers hsource
  obtain ⟨hout, hline, hstats, herror⟩ := p.run_of_fits source hsink.fair (hsink.fitting _)
  rw [hlines] at hout hline hstats
  rw [hsink.new, List.nil_append] at hout
  rw [hsink.flush, hend] at herror
  refine ⟨hout, ?_, hline⟩
  rw [Outcome.result, herror, hstats]
  rfl

/-- **A run writes its input line by line.** Over every source that delivers some bytes, and into
every sink that never fails, a run succeeds; it writes what the substitution makes of each physical
line under its number, and it counts the lines, the copies written and the lines changed. -/
theorem run_line_by_line {input : Bytes} {source : Source} {sink : Sink}
    (hsource : source.Delivers input) (hsink : sink.Unfailing) :
    let lines := physicalLines input
    let emitted := lines.mapIdx fun k line => s.emissions selecting (k + 1) line
    let changed := lines.mapIdx fun k line => s.changes selecting (k + 1) line
    let o := (ofSubstitution s selecting).run source sink
    PhysicalLines input lines ∧
      o.out = emitted.flatten.flatten ∧
      o.result = .ok ⟨lines.length, emitted.flatten.length, changed.count true⟩ ∧
      ((ofSubstitution s selecting).after o).currentLine = lines.length := by
  intro lines emitted changed o
  obtain ⟨hlines, hend⟩ := Source.lines_of_delivers hsource
  obtain ⟨hout, hcopies, hchanged⟩ := output_eq s selecting lines
  obtain ⟨h1, h2, h3, h4⟩ :=
    run_of_fits (ofSubstitution s selecting) source hsink.fair (hsink.fitting _)
  rw [hlines] at h1 h2 h3
  rw [hsink.flush, hend] at h4
  refine ⟨physicalLines_spec input, ?_, ?_, h2⟩
  · rw [h1, hsink.new, List.nil_append]
    exact hout
  · rw [Outcome.result, h4, h3, ← hcopies, ← hchanged]
    simp [closingError, Stats.after, lines]

/-- A sink that takes a few bytes at a time and interrupts writes in between. -/
def reluctant : Sink := ⟨[], none, none, some 1, 2, none, [⟨1, some 2⟩, ⟨0, some 1⟩]⟩

theorem reluctant_unfailing : reluctant.Unfailing :=
  ⟨⟨by decide, by decide, by simp [reluctant]⟩, rfl, rfl, rfl⟩

/-- The substitution `s/a/b/p` under the sed semantics, restricted to the second and third line. -/
def sample : Substitution :=
  ⟨"s", ⟨"a", false, Regex.Program.ofExpr (.chars ⟨[⟨97, 97⟩]⟩), []⟩, "b", .print, "p",
    some ⟨2, 3⟩, .sed⟩

/-- Three lines, the last without a line feed and without an `a`, arrive in two reads with an
interruption between them. -/
theorem run_line_by_line_sample :
    let source : Source := [.data [97, 10, 97], .error (.bare .interrupted), .data [97, 10, 255]]
    let input : Bytes := [97, 10, 97, 97, 10, 255]
    let o := (ofSubstitution sample true).run source reluctant
    source.Delivers input ∧ reluctant.Unfailing ∧
      o.out = ((physicalLines input).mapIdx
        fun k line => sample.emissions true (k + 1) line).flatten.flatten ∧
      o.out = [50, 9, 98, 97, 10, 51, 9, 255] := by
  intro source input o
  have hsource : source.Delivers input := ⟨0, by decide⟩
  have hout : ((ofSubstitution sample true).run
      [.data [97, 10, 97], .error (.bare .interrupted), .data [97, 10, 255]] reluctant).out =
      [50, 9, 98, 97, 10, 51, 9, 255] := by decide +kernel
  exact ⟨hsource, reluctant_unfailing,
    (run_line_by_line sample true hsource reluctant_unfailing).2.1, hout⟩

end Processor
end StreamEditor
