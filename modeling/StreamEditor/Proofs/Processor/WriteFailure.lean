/-
# Runs into sinks that fail

A run into a sink that takes so many bytes in all, and then fails, is compared with the same run
into a sink that takes everything. If there is room for the whole output, the sink has taken just
that at the end, and the run ends as the other one does unless flushing fails. Otherwise the sink
has taken the beginning of the output for which there is room, and the run has failed at the line
with whose copies the room ends; no line behind it has been read. How many bytes a write takes and
which writes are interrupted makes no difference (`run_into_limited`).

Key theorem: `Processor.run_into_limited`.
-/
import StreamEditor.Proofs.Processor.Emission

namespace StreamEditor
namespace Processor

/-- **A sink that fails has taken the beginning of the output.** `limit` is the number of bytes that
the sink takes in all, and `whole` the run into a sink that takes everything. Where the output does
not fit, `line` is the line with whose copies the room ends. -/
theorem run_into_limited (p : Processor) (source : Source) {sink : Sink} {limit : Nat}
    (hfair : sink.Fair) (hnew : sink.taken = []) (hlimit : sink.limit = some limit) :
    let whole := p.run source .unlimited
    let o := p.run source sink
    (whole.out.length ≤ limit → sink.flushError = none →
      o.out = whole.out ∧ o.result = whole.result ∧ o.progress.stats = whole.progress.stats ∧
        (p.after o).currentLine = (p.after whole).currentLine) ∧
    (whole.out.length ≤ limit → ∀ cause, sink.flushError = some cause →
      o.out = whole.out ∧ o.result = .error (.write cause)) ∧
    (limit < whole.out.length →
      o.result = .error (.write (sink.full.getD .nothingWritten)) ∧ o.out = whole.out.take limit ∧
        ∃ done line rest, source.lines = done ++ line :: rest ∧
          (p.output 0 done).length ≤ limit ∧ limit < (p.output 0 (done ++ [line])).length ∧
          (p.after o).currentLine = done.length + 1 ∧ o.progress.stats.read = done.length + 1 ∧
          ∀ source' : Source, done ++ [line] <+: source'.lines → p.run source' sink = o) := by
  intro whole o
  obtain ⟨hwhole, hwholeLine, hwholeStats, hwholeError⟩ :=
    p.run_of_fits source Sink.unlimited_fair (Sink.unlimited_unfailing.fitting _)
  have hout : whole.out = p.output 0 source.lines := hwhole
  have hfits : ∀ bytes, sink.fitting bytes = bytes ↔ bytes.length ≤ limit := fun bytes => by
    rw [sink.fitting_eq_self_iff, hlimit, hnew]
    simp
  refine ⟨fun hle hflush => ?_, fun hle cause hflush => ?_, fun hlt => ?_⟩
  · obtain ⟨h1, h2, h3, h4⟩ := p.run_of_fits source hfair ((hfits _).mpr (hout ▸ hle))
    have hstats : o.progress.stats = whole.progress.stats := h3.trans hwholeStats.symm
    have herror : o.error = whole.error := by
      rw [h4, hflush]
      exact hwholeError.symm
    refine ⟨?_, ?_, hstats, h2.trans hwholeLine.symm⟩
    · rw [h1, hnew, hout, List.nil_append]
    · rw [Outcome.result, Outcome.result, herror, hstats]
  · obtain ⟨h1, -, -, h4⟩ := p.run_of_fits source hfair ((hfits _).mpr (hout ▸ hle))
    refine ⟨by rw [h1, hnew, hout, List.nil_append], ?_⟩
    rw [Outcome.result, h4, hflush]
    rfl
  · have hnot : sink.fitting (p.output 0 source.lines) ≠ p.output 0 source.lines := fun h =>
      absurd hlt (Nat.not_lt.mpr (hout ▸ (hfits _).mp h))
    obtain ⟨h1, h2, done, line, rest, hlines, hdone, hcross, hline, hread, hrun⟩ :=
      p.run_of_not_fits source hfair hnot
    refine ⟨?_, ?_, done, line, rest, hlines, (hfits _).mp hdone, ?_, hline, hread, hrun⟩
    · rw [Outcome.result, h2]
      rfl
    · rw [h1, hnew, hout, Sink.fitting, hlimit, hnew]
      rfl
    · exact Nat.not_le.mp fun h => hcross ((hfits _).mpr h)

/-- The room ends behind the number of the third line, it suffices, and it suffices but flushing
fails, all three with an input that ends in an error. -/
theorem run_into_limited_sample :
    let source : Source := [.data [97, 10, 97, 10, 98, 10], .error (.numbered 5)]
    let p := ofSubstitution sample true
    let short : Sink := { reluctant with limit := some 6, full := some (.numbered 28) }
    let wide : Sink := { reluctant with limit := some 8 }
    let stuck : Sink := { wide with flushError := some (.bare .interrupted) }
    (short.Fair ∧ wide.Fair ∧ stuck.Fair) ∧
      (p.run source short).result = .error (.write (.numbered 28)) ∧
      (p.run source short).out = (p.run source .unlimited).out.take 6 ∧
      (p.run source wide).out = (p.run source .unlimited).out ∧
      (p.run source wide).result = (p.run source .unlimited).result ∧
      (p.run source stuck).out = (p.run source .unlimited).out ∧
      (p.run source stuck).result = .error (.write (.bare .interrupted)) := by
  intro source p short wide stuck
  have hshort : short.Fair := ⟨by decide, by decide, by simp [short]; decide⟩
  have hwide : wide.Fair := ⟨by decide, by decide, by simp [wide, reluctant]⟩
  have hstuck : stuck.Fair := ⟨by decide, by decide, by simp [stuck, wide, reluctant]⟩
  have hsize : ((ofSubstitution sample true).run
      [.data [97, 10, 97, 10, 98, 10], .error (.numbered 5)] .unlimited).out.length = 8 := by
    decide +kernel
  obtain ⟨-, -, hcut⟩ := run_into_limited p source hshort rfl rfl
  obtain ⟨hsame, -, -⟩ := run_into_limited p source hwide rfl rfl
  obtain ⟨-, hflush, -⟩ := run_into_limited p source hstuck rfl rfl
  obtain ⟨h1, h2, -⟩ := hcut (Nat.lt_of_lt_of_eq (by decide) hsize.symm)
  obtain ⟨h3, h4, -⟩ := hsame (Nat.le_of_eq hsize) rfl
  obtain ⟨h5, h6⟩ := hflush (Nat.le_of_eq hsize) _ rfl
  exact ⟨⟨hshort, hwide, hstuck⟩, h1, h2, h3, h4, h5, h6⟩

end Processor
end StreamEditor
