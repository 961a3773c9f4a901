/-
# The directive that doubles line feeds

The letter `G` stands for the substitution of a line feed by two, in every place, and this is a
substitution under either semantics of flags. Its pattern is a single character, so all it does to a
line is done to the line feed at the line's end, if there is one; the lines together then come to
the input with each line feed doubled, and a line counts as changed for its line feed
(`run_doubleSpace`).

Key definitions: `Directive.doubling`, `doubled`.
Key theorem: `Directive.run_doubleSpace`.
-/
import StreamEditor.Proofs.Processor.Emission
import StreamEditor.Proofs.Regex.SingleByte
import StreamEditor.Directive

namespace StreamEditor

/-- Some bytes with each line feed doubled. -/
def doubled (bytes : Bytes) : Bytes :=
  bytes.flatMap fun b => if b = lineFeed then [lineFeed, lineFeed] else [b]

theorem doubled_flatten (lines : List Bytes) : doubled lines.flatten = lines.flatMap doubled := by
  simp only [doubled, List.flatMap_def, List.map_flatten, List.flatten_flatten, List.map_map]
  rfl

/-- Lines with a line feed at their end alone: there are as many line feeds as lines that have
one. -/
theorem count_flatten_of_cut : ∀ {lines : List Bytes},
    (∀ line ∈ lines, lineFeed ∉ line.dropLast) →
    lines.flatten.count lineFeed = lines.countP fun line => decide (lineFeed ∈ line)
  | [], _ => rfl
  | line :: lines, hcut => by
    have ih := count_flatten_of_cut fun l hl => hcut l (List.mem_cons_of_mem _ hl)
    have hline : line.count lineFeed = if lineFeed ∈ line then 1 else 0 := by
      have hbody := hcut line List.mem_cons_self
      rcases line.eq_nil_or_concat with rfl | ⟨body, b, rfl⟩
      · rfl
      · rw [List.concat_eq_append, List.dropLast_concat] at hbody
        by_cases hb : b = lineFeed
        · simp [hb, List.count_eq_zero_of_not_mem hbody]
        · simp [Ne.symm hb, hbody, List.count_eq_zero_of_not_mem]
    rw [List.flatten_cons, List.count_append, ih, hline, List.countP_cons, Nat.add_comm]
    simp only [decide_eq_true_eq]

namespace Directive

/-- The substitution that `G` stands for. -/
def doubling (semantics : FlagSemantics) : Substitution :=
  ⟨"s", ⟨"\n", false, .ofByte lineFeed, []⟩, "\n\n", .global, "g", none, semantics⟩

theorem parse_doubleSpace (selecting : Bool) (semantics : FlagSemantics) :
    parse selecting semantics "G" = .ok (doubling semantics) := by
  cases semantics <;> rfl

/-- The pattern matches in the lines that have a line feed, -/
theorem isMatch_doubling (semantics : FlagSemantics) (line : Bytes) :
    (doubling semantics).pattern.isMatch line = decide (lineFeed ∈ line) :=
  Regex.isMatch_ofByte rfl (by decide) line

/-- and all its matches replaced double them. -/
theorem allReplaced_doubling (semantics : FlagSemantics) (line : Bytes) :
    (doubling semantics).allReplaced line = doubled line := by
  have hnew : Regex.Template.expand [] (Regex.Template.parse "\n\n") =
      fun _ => [lineFeed, lineFeed] := rfl
  change Regex.splice line (Regex.Template.expand [] (Regex.Template.parse "\n\n"))
    (Regex.Place.start line).index _ = _
  rw [hnew]
  exact Regex.splice_ofByte (r := (doubling semantics).pattern) rfl (by decide) _ none
    (Regex.Place.start_of line)

/-- **What becomes of a line**: its line feeds are doubled, without a number in front, whether runs
are restricted to ranges or not. -/
theorem line_doubling (selecting : Bool) (semantics : FlagSemantics) (i : Nat) (line : Bytes) :
    (Processor.ofSubstitution (doubling semantics) selecting).line i line =
      .kept (doubled line) (decide (lineFeed ∈ line)) none false := by
  have hall : (selecting && (doubling semantics).range.isSome) = false := Bool.and_false selecting
  have hedit : (doubling semantics).edit true none line =
      Substitution.kept line none false ((doubling semantics).pattern.replaceAll?
        (doubling semantics).replacement line) := by
    cases semantics <;> rfl
  have hmatch := (doubling semantics).pattern.isMatch_iff line
  unfold Processor.line Processor.inScope Processor.ofSubstitution
  simp only [hall, Bool.not_false, Bool.true_or, if_true, Bool.false_eq_true, if_false]
  rw [hedit, Substitution.kept_all, allReplaced_doubling, Substitution.matched, ← hmatch,
    isMatch_doubling]

/-- **`G` doubles every line feed and nothing else.** Under either semantics, and with or without
the restriction to ranges, it is a directive; over every source that delivers some bytes and into
every sink that never fails, its run succeeds and writes these bytes with each line feed doubled
and every other byte in its place. It reads and writes each physical line once, and it counts as
many lines changed as there are line feeds. -/
theorem run_doubleSpace (selecting : Bool) (semantics : FlagSemantics) :
    ∃ s, parse selecting semantics "G" = .ok s ∧
      ∀ {input : Bytes} {source : Source} {sink : Sink}, source.Delivers input → sink.Unfailing →
        let o := (Processor.ofSubstitution s selecting).run source sink
        let lines := physicalLines input
        PhysicalLines input lines ∧ o.out = doubled input ∧
          o.result = .ok ⟨lines.length, lines.length, input.count lineFeed⟩ := by
  refine ⟨doubling semantics, parse_doubleSpace selecting semantics, ?_⟩
  intro input source sink hsource hsink o lines
  have hspec : PhysicalLines input lines := physicalLines_spec input
  obtain ⟨hout, hresult, -⟩ :=
    (Processor.ofSubstitution (doubling semantics) selecting).run_delivered hsource hsink
  have hresults := Processor.results_eq_map _ (line_doubling selecting semantics) lines 0
  have hcopies : ((Processor.ofSubstitution (doubling semantics) selecting).results 0 lines).flatMap
      LineResult.copies = lines.map fun line => [doubled line] := by
    rw [hresults, List.flatMap_map]
    exact List.map_eq_flatMap.symm
  refine ⟨hspec, ?_, ?_⟩
  · rw [hout, Processor.output_eq_flatten, hcopies, ← List.flatMap_def,
      ← List.map_eq_flatMap, ← List.flatMap_def, ← doubled_flatten, hspec.whole]
  · have hcount := count_flatten_of_cut hspec.cut
    rw [hspec.whole] at hcount
    rw [hresult, Stats.after, hcopies, hresults, hcount]
    simp [LineResult.isChange, List.countP_map, Function.comp_def]

/-- A blank line, a byte that is no UTF-8, and an unfinished last line arrive in two reads with an
interruption between them, and the output is taken in pieces. -/
theorem run_doubleSpace_sample :
    let source : Source := [.data [10, 97], .error (.bare .interrupted), .data [255, 10, 98]]
    source.Delivers [10, 97, 255, 10, 98] ∧ Processor.reluctant.Unfailing ∧
      ∃ s, parse true .sed "G" = .ok s ∧
        ((Processor.ofSubstitution s true).run source Processor.reluctant).out =
          [10, 10, 97, 255, 10, 10, 98] ∧
        ((Processor.ofSubstitution s true).run source Processor.reluctant).result =
          .ok ⟨3, 3, 2⟩ := by
  intro source
  have hsource : source.Delivers [10, 97, 255, 10, 98] := ⟨0, by decide⟩
  obtain ⟨s, hparse, hrun⟩ := run_doubleSpace true .sed
  obtain ⟨-, hout, hresult⟩ := hrun hsource Processor.reluctant_unfailing
  exact ⟨hsource, Processor.reluctant_unfailing, s, hparse, hout, hresult⟩

end Directive
end StreamEditor
