/-
# Deleting lines

A substitution that deletes lines, run over all lines of its input, is a filter of the physical
lines: it writes those in which the pattern does not match, as they are and in their order
(`run_deletes`). What it writes is cut into just these lines again, also where the unfinished last
line went or was kept, so a second run finds nothing to delete.

Key theorems: `Processor.line_of_deletes`, `Processor.copies_of_deletes`, `Processor.run_deletes`.
-/
import StreamEditor.Proofs.Processor.Changed

namespace StreamEditor.Processor

variable {p : Processor}

/-- A line in scope of a substitution that deletes is dropped if the pattern matches in it, and
kept as it is otherwise. -/
theorem line_of_deletes (hdeletes : p.substitution.Deletes) (hall : p.onlyRange = false) (i : Nat)
    (line : Bytes) : p.line i line =
      if p.substitution.pattern.isMatch line then .dropped else .kept line false none false := by
  simp [Processor.line, inScope, Substitution.edit, hdeletes.semantics, hdeletes.flag, hall]

/-- **Lines are filtered**: what is written is the lines that the pattern does not match. -/
theorem copies_of_deletes (hdeletes : p.substitution.Deletes) (hall : p.onlyRange = false)
    (lines : List Bytes) (i : Nat) :
    (p.results i lines).flatMap LineResult.copies =
      (lines.filter fun line => !p.substitution.pattern.isMatch line).map fun line => [line] := by
  rw [results_eq_map p (line_of_deletes hdeletes hall)]
  induction lines with
  | nil => rfl
  | cons line lines ih =>
    rw [List.map_cons, List.flatMap_cons, ih, List.filter_cons]
    cases p.substitution.pattern.isMatch line <;> rfl

/-- What a run that deletes comes to, over any source that delivers the input and into any sink that
never fails. -/
theorem run_of_deletes (hdeletes : p.substitution.Deletes) (hall : p.onlyRange = false)
    {input : Bytes} {source : Source} {sink : Sink} (hsource : source.Delivers input)
    (hsink : sink.Unfailing) :
    (p.run source sink).out = ((physicalLines input).filter fun line =>
        !p.substitution.pattern.isMatch line).flatten ∧
      (p.run source sink).result = .ok ⟨(physicalLines input).length,
        (physicalLines input).countP fun line => !p.substitution.pattern.isMatch line, 0⟩ := by
  obtain ⟨hout, hresult, -⟩ := p.run_delivered hsource hsink
  have hcopies := copies_of_deletes hdeletes hall (physicalLines input) 0
  constructor
  · rw [hout, output_eq_flatten, hcopies, ← List.flatMap_def, List.flatMap_singleton']
  · rw [hresult, Stats.after, hcopies, countP_results, if_pos hdeletes, length_results,
      List.countP_eq_length_filter, List.length_map]
    simp only [Nat.zero_add]

/-- **Deletion is an idempotent filter.** A substitution that deletes, not restricted to a range,
succeeds over every source that delivers some bytes and into every sink that never fails. It writes
the physical lines in which the pattern does not match, unchanged and in their order, whatever the
replacement is; the lines read and not written are as many as those in which it matches. If the same
processor runs again, over any source that delivers what was written, it writes just that, and every
line it reads. -/
theorem run_deletes (s : Substitution) (selecting : Bool) (hdeletes : s.Deletes)
    (hall : (selecting && s.range.isSome) = false) {input : Bytes} {source : Source} {sink : Sink}
    (hsource : source.Delivers input) (hsink : sink.Unfailing) :
    let p := ofSubstitution s selecting
    let lines := physicalLines input
    let kept := lines.filter fun line => !s.pattern.isMatch line
    let first := p.run source sink
    PhysicalLines input lines ∧
      first.out = kept.flatten ∧
      (∃ stats, first.result = .ok stats ∧ stats.read = lines.length ∧
        stats.emitted = kept.length ∧
        stats.read = stats.emitted + lines.countP fun line => s.pattern.isMatch line) ∧
      ∀ {source' : Source} {sink' : Sink}, source'.Delivers first.out → sink'.Unfailing →
        ((p.after first).run source' sink').out = first.out ∧
        ((p.after first).run source' sink').result = .ok ⟨kept.length, kept.length, 0⟩ := by
  intro p lines kept first
  obtain ⟨hout, hresult⟩ := run_of_deletes (p := p) hdeletes hall hsource hsink
  have hcount : lines.length = lines.countP (fun line => !s.pattern.isMatch line) +
      lines.countP fun line => s.pattern.isMatch line := by
    rw [lines.length_eq_countP_add_countP fun line => s.pattern.isMatch line, Nat.add_comm]
    simp
  refine ⟨physicalLines_spec input, hout,
    ⟨_, hresult, rfl, List.countP_eq_length_filter, hcount⟩, ?_⟩
  intro source' sink' hsource' hsink'
  -- The kept lines are the physical lines of what was written, and none of them matches.
  have hagain : physicalLines first.out = kept := by
    rw [hout]
    exact ((physicalLines_spec input).sublist List.filter_sublist).eq.symm
  have hkept : ∀ line ∈ kept, (!s.pattern.isMatch line) = true := fun line hl =>
    (List.mem_filter.mp hl).2
  have hcount' : kept.countP (fun line => !s.pattern.isMatch line) = kept.length :=
    List.countP_eq_length.mpr hkept
  obtain ⟨hout', hresult'⟩ := run_of_deletes (p := p.after first) hdeletes hall hsource' hsink'
  rw [hagain] at hout' hresult'
  constructor
  · exact hout'.trans ((congrArg _ (List.filter_eq_self.mpr hkept)).trans hout.symm)
  · rw [hresult', ← hcount']
    rfl

/-- Of four lines, a blank one and one with two matches among them, the first goes, and so does the
last, which is unfinished. The lines arrive in two reads, and again in two. -/
theorem run_deletes_sample :
    let source : Source := [.data [111, 10, 10, 97], .error (.bare .interrupted),
      .data [10, 98, 111, 111]]
    let source' : Source := [.data [10], .data [97, 10]]
    let p := ofSubstitution deletion false
    let first := p.run source reluctant
    deletion.Deletes ∧ source.Delivers [111, 10, 10, 97, 10, 98, 111, 111] ∧ reluctant.Unfailing ∧
      source'.Delivers first.out ∧ first.out = [10, 97, 10] ∧
      ((p.after first).run source' reluctant).out = [10, 97, 10] := by
  intro source source' p first
  have hdeletes : deletion.Deletes := ⟨rfl, rfl⟩
  have hsource : source.Delivers [111, 10, 10, 97, 10, 98, 111, 111] := ⟨0, by decide⟩
  obtain ⟨-, hout, -, hagain⟩ := run_deletes deletion false hdeletes rfl hsource
    reluctant_unfailing
  have hfirst : first.out = [10, 97, 10] := hout.trans (by decide +kernel)
  have hsource' : source'.Delivers first.out := ⟨0, by rw [hfirst]; decide⟩
  exact ⟨hdeletes, hsource, reluctant_unfailing, hsource', hfirst,
    (hagain hsource' reluctant_unfailing).1.trans hfirst⟩

end StreamEditor.Processor
