/-
# Runs over sources that fail

Interruptions, the way in which the input is cut into reads, and the buffer through which it is
read have no influence on a run. The lines are cut by the rules of `LinesOf`. If an error ends the
input, the run has written what it writes over the completed lines alone, whose number the error
tells; it has flushed that, and a failure to flush is told in place of the failure to read
(`run_of_arrivals`).

Key theorem: `Processor.run_of_arrivals`.
-/
import StreamEditor.Proofs.Processor.Emission

namespace StreamEditor
namespace Processor

/-- Only what arrives matters to a run. -/
theorem run_congr (p : Processor) {source source' : Source}
    (h : source'.arrivals = source.arrivals) (sink : Sink) :
    p.run source' sink = p.run source sink := by
  have hlines : source'.lines = source.lines := by
    rw [Source.lines, Source.lines, Source.readFrom_eq, Source.readFrom_eq, h]
  have hending : source'.ending = source.ending := by
    rw [Source.ending, Source.ending, Source.readFrom_eq, Source.readFrom_eq, h]
  rw [run, run, hlines, hending]

/-- **A run over any source**, into a sink that never fails. Only what arrives matters, and the
rules of lines cut it. What is written and counted comes from the completed lines, as if they were
all the input; the run ends in the error that ends them, if one does, told with their number, unless
it cannot flush what it has written. -/
theorem run_of_arrivals (s : Substitution) (selecting : Bool) (source : Source) {sink : Sink}
    (hsink : sink.Unfailing) :
    let p := ofSubstitution s selecting
    let lines := source.lines
    let emitted := lines.mapIdx fun k line => s.emissions selecting (k + 1) line
    let changed := lines.mapIdx fun k line => s.changes selecting (k + 1) line
    let o := p.run source sink
    let clean := p.run (Source.ofLines lines) sink
    (∀ source' : Source, source'.arrivals = source.arrivals → p.run source' sink = o) ∧
      (∀ size, p.run (source.buffered size) sink = o) ∧
      (∀ lines' ending, LinesOf source.arrivals lines' ending ↔
        lines = lines' ∧ source.ending = ending) ∧
      o.out = emitted.flatten.flatten ∧
      o.progress.stats = ⟨lines.length, emitted.flatten.length, changed.count true⟩ ∧
      (p.after o).currentLine = lines.length ∧
      clean.result = .ok o.progress.stats ∧ clean.progress = o.progress ∧
      (source.ending = none → o.result = clean.result) ∧
      (∀ cause, source.ending = some cause → o.result = .error (.read lines.length cause)) ∧
      ∀ cause, (p.run source { sink with flushError := some cause }).out = o.out ∧
        (p.run source { sink with flushError := some cause }).result = .error (.write cause) := by
  intro p lines emitted changed o clean
  obtain ⟨hagain, hclean⟩ : (Source.ofLines lines).lines = lines ∧ _ :=
    (Source.lines_iff _ _ _).mp ((source.lines_iff lines _).mpr ⟨rfl, rfl⟩).ofLines
  obtain ⟨hout, hcopies, hchanged⟩ := output_eq s selecting lines
  obtain ⟨h1, h2, h3, h4⟩ := p.run_of_fits source hsink.fair (hsink.fitting _)
  obtain ⟨-, -, -, h4'⟩ := p.run_of_fits (Source.ofLines lines) hsink.fair (hsink.fitting _)
  have hprogress : clean.progress = o.progress := by
    rw [p.progress_run, p.progress_run, hagain]
  have hcleanResult : clean.result = .ok o.progress.stats := by
    rw [Outcome.result, h4', hsink.flush, hclean, hprogress]
    rfl
  refine ⟨fun source' h => p.run_congr h sink,
    fun size => p.run_congr (Source.arrivals_buffered size source) sink,
    source.lines_iff, ?_, ?_, h2, hcleanResult, hprogress, ?_, ?_, ?_⟩
  · rw [h1, hsink.new, List.nil_append]
    exact hout
  · rw [h3, ← hcopies, ← hchanged]
    simp [Stats.after, lines, p]
  · intro h
    rw [hcleanResult, Outcome.result, h4, hsink.flush, h]
    rfl
  · intro cause h
    rw [Outcome.result, h4, hsink.flush, h]
    rfl
  · intro cause
    have hstuck : Sink.Fair { sink with flushError := some cause } :=
      ⟨hsink.fair.most, hsink.fair.later, hsink.fair.full⟩
    obtain ⟨h5, -, -, h6⟩ :=
      p.run_of_fits source hstuck (by rw [Sink.fitting, hsink.unlimited])
    refine ⟨h5.trans h1.symm, ?_⟩
    rw [Outcome.result, h6]
    rfl

/-- Lines completed by a line feed and by a read without bytes, an interruption inside the first,
and an error inside the last. -/
theorem run_of_arrivals_sample :
    let source : Source :=
      [.data [97], .error (.bare .interrupted), .data [10, 97], .data [], .data [97, 10, 97],
        .error (.numbered 5), .data [10]]
    let o := (ofSubstitution sample true).run source reluctant
    reluctant.Unfailing ∧ source.lines = [[97, 10], [97], [97, 10]] ∧
      o.result = .error (.read 3 (.numbered 5)) ∧
      (ofSubstitution sample true).run (source.buffered 0) reluctant = o := by
  intro source o
  obtain ⟨-, hbuffered, -, -, -, -, -, -, -, herror, -⟩ :=
    run_of_arrivals sample true source reluctant_unfailing
  exact ⟨reluctant_unfailing, by decide, herror _ (by decide), hbuffered 0⟩

end Processor
end StreamEditor
