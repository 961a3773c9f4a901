/-
# Runs into fair sinks

Into a fair sink a run writes what becomes of its lines, as far as the sink has room for it. If all
of it fits, the lines are all read and counted (`steps_of_fits`, `run_of_fits`). Otherwise the run
stops at the first line whose copies do not all fit, and nothing behind that line matters
(`steps_of_not_fits`, `run_of_not_fits`). Both follow from what a single line does (`step_eq`).

Key definitions: `Processor.results`, `Processor.output`, `Stats.after`, `Processor.Progress.after`.
Key theorems: `Processor.step_eq`, `Processor.steps_of_fits`, `Processor.steps_of_not_fits`,
`Processor.run_of_fits`, `Processor.run_of_not_fits`.
-/
import StreamEditor.Processor
import StreamEditor.Proofs.Stream.Writing

namespace StreamEditor

/-- The bytes of all copies of a line. -/
def LineResult.bytes (r : LineResult) : Bytes := r.copies.flatten.flatten

/-- The counts after some more lines. -/
def Stats.after (s : Stats) (rs : List LineResult) : Stats :=
  ⟨s.read + rs.length, s.emitted + (rs.flatMap LineResult.copies).length,
    s.changed + rs.countP (·.isChange)⟩

namespace Processor

/-- What becomes of the lines behind line `i`. -/
def results (p : Processor) (i : Nat) : List Bytes → List LineResult
  | [] => []
  | line :: lines => p.line (i + 1) line :: results p (i + 1) lines

/-- What the lines behind line `i` come to in bytes. -/
def output (p : Processor) (i : Nat) (lines : List Bytes) : Bytes :=
  (p.results i lines).flatMap LineResult.bytes

/-- The numbers of the lines dropped behind line `i`, put in front of those dropped before. -/
def noted (i : Nat) : List LineResult → List Nat → List Nat
  | [], dropped => dropped
  | r :: rs, dropped => noted (i + 1) rs (if r == .dropped then (i + 1) :: dropped else dropped)

/-- The progress after some more lines, and with another sink. -/
def Progress.after (s : Progress) (rs : List LineResult) (t : Sink) : Progress :=
  ⟨s.line + rs.length, s.stats.after rs, noted s.line rs s.dropped, t⟩

@[simp]
theorem length_results (p : Processor) : ∀ (lines : List Bytes) (i : Nat),
    (p.results i lines).length = lines.length
  | [], _ => rfl
  | _ :: lines, i => by rw [results, List.length_cons, length_results p lines, List.length_cons]

/-- Whatever is read off what becomes of lines is read off line by line. -/
theorem map_results {α : Type} (p : Processor) (f : LineResult → α) : ∀ (lines : List Bytes)
    (i : Nat), (p.results i lines).map f = lines.mapIdx fun k line => f (p.line (i + (k + 1)) line)
  | [], _ => rfl
  | line :: lines, i => by
    rw [results, List.map_cons, map_results p f lines, List.mapIdx_cons]
    simp only [Nat.zero_add, Nat.add_assoc, Nat.add_comm 1]

/-- Lines of which the same becomes under every number. -/
theorem results_eq_map (p : Processor) {f : Bytes → LineResult}
    (h : ∀ i line, p.line i line = f line) : ∀ (lines : List Bytes) (i : Nat),
    p.results i lines = lines.map f
  | [], _ => rfl
  | line :: lines, i => by rw [results, h, results_eq_map p h lines, List.map_cons]

theorem output_cons (p : Processor) (i : Nat) (line : Bytes) (lines : List Bytes) :
    p.output i (line :: lines) = (p.line (i + 1) line).bytes ++ p.output (i + 1) lines := by
  rw [output, results, List.flatMap_cons]
  rfl

/-- The output of lines is the pieces of all their copies, put together. -/
theorem output_eq_flatten (p : Processor) (i : Nat) (lines : List Bytes) :
    p.output i lines = ((p.results i lines).flatMap LineResult.copies).flatten.flatten := by
  simp only [output, List.flatMap_def, List.flatten_flatten, List.map_map]
  rfl

theorem Progress.after_cons (s : Progress) (r : LineResult) (rs : List LineResult) (t u : Sink) :
    (s.after [r] t).after rs u = s.after (r :: rs) u := by
  simp only [Progress.after, Stats.after, noted, List.length_cons, List.length_nil,
    List.flatMap_cons, List.flatMap_nil, List.length_append, List.countP_cons, List.countP_nil,
    Progress.mk.injEq, Stats.mk.injEq, and_true]
  omega

/-! ### One line -/

/-- A fair sink takes of the copies what fits; each copy that is taken as a whole is counted. -/
theorem write_eq : ∀ (copies : List (List Bytes)) (s : Progress), s.sink.Fair →
    ∃ t n, s.sink.Took (s.sink.fitting copies.flatten.flatten) t ∧
      (s.sink.fitting copies.flatten.flatten = copies.flatten.flatten → n = copies.length) ∧
      write copies s =
        (if s.sink.fitting copies.flatten.flatten = copies.flatten.flatten then none
          else some s.sink.refusal,
          { s with sink := t, stats := { s.stats with emitted := s.stats.emitted + n } })
  | [], s, hs => ⟨s.sink, 0, by simpa using Sink.Took.refl hs, fun _ => rfl, by simp [write]⟩
  | copy :: copies, s, hs => by
    obtain ⟨t, ht, he⟩ := Sink.writeEach_eq copy hs
    rw [write, he, List.flatten_cons, List.flatten_append]
    by_cases hfit : s.sink.fitting copy.flatten = copy.flatten
    · rw [hfit] at ht
      obtain ⟨u, n, hu, hn, hr⟩ := write_eq copies
        { s with sink := t, stats := { s.stats with emitted := s.stats.emitted + 1 } } ht.fair
      rw [ht.fitting_append hfit]
      simp only [List.append_cancel_left_eq]
      refine ⟨u, n + 1, ht.trans hu, fun h => ?_, ?_⟩
      · rw [hn h, List.length_cons]
      · rw [if_pos hfit]
        simp only
        rw [hr, ht.refusal]
        simp only [Nat.add_assoc, Nat.add_comm 1]
    · obtain ⟨h1, h2⟩ := Sink.fitting_append_of_ne hfit copies.flatten.flatten
      exact ⟨t, 0, by rw [h1]; exact ht, fun h => absurd h h2, by rw [if_neg hfit, if_neg h2]; rfl⟩

/-- **What a line does.** Its copies are written as far as they fit. If all of them do, the line is
counted with them, and if not, the run fails at this line. -/
theorem step_eq (p : Processor) (s : Progress) (line : Bytes) (hs : s.sink.Fair) :
    ∃ s', s.sink.Took (s.sink.fitting (p.line (s.line + 1) line).bytes) s'.sink ∧
      s'.line = s.line + 1 ∧ s'.stats.read = s.stats.read + 1 ∧
      (s.sink.fitting (p.line (s.line + 1) line).bytes = (p.line (s.line + 1) line).bytes →
        s' = s.after [p.line (s.line + 1) line] s'.sink) ∧
      p.step s line =
        (if s.sink.fitting (p.line (s.line + 1) line).bytes = (p.line (s.line + 1) line).bytes
          then none else some s.sink.refusal, s') := by
  unfold step
  simp only
  generalize p.line (s.line + 1) line = r
  obtain ⟨t, n, ht, hn, he⟩ := write_eq r.copies
    { s with
      line := s.line + 1
      stats :=
        { s.stats with
          read := s.stats.read + 1
          changed := s.stats.changed + (if r.isChange then 1 else 0) }
      dropped := if r == .dropped then (s.line + 1) :: s.dropped else s.dropped } hs
  refine ⟨⟨s.line + 1, ⟨s.stats.read + 1, s.stats.emitted + n, _⟩, _, t⟩, ht, rfl, rfl,
    fun hfit => ?_, he⟩
  rw [hn hfit]
  simp [Progress.after, Stats.after, noted, List.countP_cons]

/-! ### All lines -/

/-- **Lines that fit** are read, written and counted. -/
theorem steps_of_fits (p : Processor) : ∀ (lines : List Bytes) (s : Progress), s.sink.Fair →
    s.sink.fitting (p.output s.line lines) = p.output s.line lines →
    ∃ t, s.sink.Took (p.output s.line lines) t ∧
      p.steps s lines = (none, s.after (p.results s.line lines) t)
  | [], s, hs, _ => ⟨s.sink, .refl hs, rfl⟩
  | line :: lines, s, hs, hfit => by
    obtain ⟨s', ht, hline, -, hafter, he⟩ := p.step_eq s line hs
    rw [output_cons] at hfit ⊢
    have hfirst : s.sink.fitting (p.line (s.line + 1) line).bytes =
        (p.line (s.line + 1) line).bytes := Sink.fitting_of_append hfit
    rw [hfirst] at ht
    rw [ht.fitting_append hfirst, List.append_cancel_left_eq, ← hline] at hfit
    obtain ⟨u, hu, hr⟩ := steps_of_fits p lines s' ht.fair hfit
    rw [hline] at hu hr
    refine ⟨u, ht.trans hu, ?_⟩
    rw [steps, he, if_pos hfirst]
    simp only
    rw [hr, hafter hfirst, Progress.after_cons]
    rfl

/-- **Lines that do not all fit.** The run fails at the first of them, `line`, whose copies do not
fit behind those of the lines before it, `done`, and it does so whatever follows that line. -/
theorem steps_of_not_fits (p : Processor) : ∀ (lines : List Bytes) (s : Progress), s.sink.Fair →
    s.sink.fitting (p.output s.line lines) ≠ p.output s.line lines →
    ∃ done line rest s', lines = done ++ line :: rest ∧
      s.sink.fitting (p.output s.line done) = p.output s.line done ∧
      s.sink.fitting (p.output s.line (done ++ [line])) ≠ p.output s.line (done ++ [line]) ∧
      s.sink.Took (s.sink.fitting (p.output s.line lines)) s'.sink ∧
      s'.line = s.line + (done.length + 1) ∧ s'.stats.read = s.stats.read + (done.length + 1) ∧
      ∀ rest', p.steps s (done ++ line :: rest') = (some s.sink.refusal, s')
  | [], s, hs, hfit => absurd (s.sink.fitting_nil) hfit
  | line :: lines, s, hs, hfit => by
    obtain ⟨s', ht, hline, hread, hafter, he⟩ := p.step_eq s line hs
    by_cases hfirst : s.sink.fitting (p.line (s.line + 1) line).bytes =
        (p.line (s.line + 1) line).bytes
    · rw [hfirst] at ht
      have happ : ∀ ls, s.sink.fitting (p.output s.line (line :: ls)) =
          (p.line (s.line + 1) line).bytes ++ s'.sink.fitting (p.output s'.line ls) := fun ls => by
        rw [output_cons, ht.fitting_append hfirst, hline]
      rw [happ, output_cons, ne_eq, List.append_cancel_left_eq, ← hline] at hfit
      obtain ⟨done, l, rest, s'', rfl, hdone, hnot, hu, hl, hr, hsteps⟩ :=
        steps_of_not_fits p lines s' ht.fair hfit
      refine ⟨line :: done, l, rest, s'', rfl, ?_, ?_, ?_, ?_, ?_, fun rest' => ?_⟩
      · rw [happ, hdone, output_cons, hline]
      · rw [List.cons_append, happ, output_cons, ne_eq, List.append_cancel_left_eq, ← hline]
        exact hnot
      · rw [happ]
        exact ht.trans hu
      · rw [hl, hline, List.length_cons]
        omega
      · rw [hr, hread, List.length_cons]
        omega
      · rw [List.cons_append, steps, he, if_pos hfirst]
        simp only
        rw [hsteps, ht.refusal]
    · obtain ⟨h1, h2⟩ := Sink.fitting_append_of_ne hfirst (p.output (s.line + 1) lines)
      refine ⟨[], line, lines, s', rfl, s.sink.fitting_nil, ?_, ?_, hline, hread, fun rest' => ?_⟩
      · rw [List.nil_append, output_cons]
        exact (Sink.fitting_append_of_ne hfirst _).2
      · rw [output_cons, h1]
        exact ht
      · rw [List.nil_append, steps, he, if_neg hfirst]

/-! ### Runs -/

/-- What a run has counted before its first line. -/
def Progress.fresh (sink : Sink) : Progress := ⟨0, ⟨0, 0, 0⟩, [], sink⟩

/-- How far a run comes is a matter of the lines alone. -/
theorem progress_run (p : Processor) (source : Source) (sink : Sink) :
    (p.run source sink).progress = (p.steps (Progress.fresh sink) source.lines).2 := by
  change (run p source sink).progress = (p.steps ⟨0, ⟨0, 0, 0⟩, [], sink⟩ source.lines).2
  rw [run]
  cases p.steps ⟨0, ⟨0, 0, 0⟩, [], sink⟩ source.lines with
  | mk error s => cases error <;> rfl

/-- The error of a run that has read and written all of its lines: that of flushing, or else the
one that ends the input. -/
def closingError (lines : Nat) : Option SystemError → Option SystemError → Option EditError
  | some cause, _ => some (.write cause)
  | none, some cause => some (.read lines cause)
  | none, none => none

/-- **A run whose output fits** reads and writes all lines, and then flushes the sink. -/
theorem run_of_fits (p : Processor) (source : Source) {sink : Sink} (hs : sink.Fair)
    (hfit : sink.fitting (p.output 0 source.lines) = p.output 0 source.lines) :
    (p.run source sink).out = sink.taken ++ p.output 0 source.lines ∧
      (p.run source sink).progress.line = source.lines.length ∧
      (p.run source sink).progress.stats = Stats.after ⟨0, 0, 0⟩ (p.results 0 source.lines) ∧
      (p.run source sink).error =
        closingError source.lines.length sink.flushError source.ending := by
  obtain ⟨t, ht, he⟩ := p.steps_of_fits source.lines (Progress.fresh sink) hs hfit
  have hline : ((Progress.fresh sink).after (p.results 0 source.lines) t).line =
      source.lines.length := by
    simp [Progress.after, Progress.fresh]
  have hflush : ((Progress.fresh sink).after (p.results 0 source.lines) t).sink.flush =
      sink.flushError := ht.flushError
  have hrun : p.run source sink =
      ⟨(Progress.fresh sink).after (p.results 0 source.lines) t, source.ending,
        closingError source.lines.length sink.flushError source.ending⟩ := by
    change p.steps ⟨0, ⟨0, 0, 0⟩, [], sink⟩ source.lines =
      (none, (Progress.fresh sink).after (p.results 0 source.lines) t) at he
    rw [run, he]
    simp only [hflush, hline]
    cases sink.flushError <;> cases source.ending <;> rfl
  rw [hrun]
  exact ⟨ht.taken, hline, rfl, rfl⟩

/-- **A run whose output does not fit** fails at the first line, `line`, whose copies do not fit
behind those of the lines before it, `done`. It has written what fits, and it runs in the same way
over every source that has the same lines up to this one. -/
theorem run_of_not_fits (p : Processor) (source : Source) {sink : Sink} (hs : sink.Fair)
    (hfit : sink.fitting (p.output 0 source.lines) ≠ p.output 0 source.lines) :
    (p.run source sink).out = sink.taken ++ sink.fitting (p.output 0 source.lines) ∧
      (p.run source sink).error = some (.write sink.refusal) ∧
      ∃ done line rest, source.lines = done ++ line :: rest ∧
        sink.fitting (p.output 0 done) = p.output 0 done ∧
        sink.fitting (p.output 0 (done ++ [line])) ≠ p.output 0 (done ++ [line]) ∧
        (p.run source sink).progress.line = done.length + 1 ∧
        (p.run source sink).progress.stats.read = done.length + 1 ∧
        ∀ source' : Source, done ++ [line] <+: source'.lines →
          p.run source' sink = p.run source sink := by
  obtain ⟨done, line, rest, s', hlines, hdone, hnot, ht, hline, hread, hsteps⟩ :=
    p.steps_of_not_fits source.lines (Progress.fresh sink) hs hfit
  have hrun : ∀ source' : Source, done ++ [line] <+: source'.lines →
      p.run source' sink = ⟨s', none, some (.write sink.refusal)⟩ := by
    rintro source' ⟨rest', h⟩
    have he := hsteps rest'
    rw [← List.singleton_append, ← List.append_assoc, h] at he
    change p.steps ⟨0, ⟨0, 0, 0⟩, [], sink⟩ source'.lines = _ at he
    rw [run, he]
    rfl
  have hsame : done ++ [line] <+: source.lines := ⟨rest, by simp [hlines]⟩
  rw [hrun source hsame]
  refine ⟨ht.taken, rfl, done, line, rest, hlines, hdone, hnot, ?_, ?_, hrun⟩
  · simpa [Progress.fresh] using hline
  · simpa [Progress.fresh] using hread

end Processor
end StreamEditor
