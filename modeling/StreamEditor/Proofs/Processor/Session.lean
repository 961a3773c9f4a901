/-
# One processor, many runs

A processor may run again after any run, however that one ended: all of its lines read, an error in
the middle of a line, or a write that failed between the copies of one. Nothing of that reaches the
next run. What a run does depends on the substitution and the restriction, and these stay as they
were built (`BuiltFrom`); the counter of lines starts anew and climbs by one with each line until
the run stops (`steps_counts`). So every run of a session does what a new processor does.

Key definitions: `Processor.runs`, `Processor.BuiltFrom`, `Processor.progressAt`.
Key theorems: `Processor.steps_counts`, `Processor.runs_eq`, `Processor.runs_as_new`.
-/
import StreamEditor.Proofs.Processor.Alike
import StreamEditor.Proofs.Processor.Run

namespace StreamEditor
namespace Processor

/-- The runs of a processor one after the other, each with a source and a sink of its own: their
outcomes, and the processor after the last of them. -/
def runs (p : Processor) : List (Source × Sink) → List Outcome × Processor
  | [] => ([], p)
  | (source, sink) :: calls =>
    let o := p.run source sink
    let rest := runs (p.after o) calls
    (o :: rest.1, rest.2)

/-! ### What stays -/

/-- A processor built from a substitution, whatever it has run since. -/
structure BuiltFrom (s : Substitution) (selecting : Bool) (p : Processor) : Prop where
  substitution : p.substitution = s
  onlyRange : p.onlyRange = (ofSubstitution s selecting).onlyRange

variable {s : Substitution} {selecting : Bool} {p : Processor}

theorem builtFrom_new (s : Substitution) (selecting : Bool) :
    BuiltFrom s selecting (ofSubstitution s selecting) := ⟨rfl, rfl⟩

/-- A run does not rebuild its processor, however it ends. -/
theorem BuiltFrom.after (h : BuiltFrom s selecting p) (o : Outcome) :
    BuiltFrom s selecting (p.after o) := by
  obtain ⟨hsubstitution, honly⟩ := h
  exact ⟨hsubstitution, honly⟩

/-- A run does what that of a new processor does, -/
theorem BuiltFrom.run_eq (h : BuiltFrom s selecting p) (source : Source) (sink : Sink) :
    p.run source sink = (ofSubstitution s selecting).run source sink := by
  apply run_of_line
  intro i line
  unfold Processor.line inScope
  rw [h.substitution, h.onlyRange]
  rfl

/-- and leaves the processor as it leaves the new one. -/
theorem BuiltFrom.after_eq (h : BuiltFrom s selecting p) (o : Outcome) :
    p.after o = (ofSubstitution s selecting).after o := by
  obtain ⟨substitution, onlyRange, currentLine⟩ := p
  obtain ⟨hsubstitution, honly⟩ := h
  simp only at hsubstitution honly
  simp only [Processor.after, hsubstitution, honly]
  rfl

/-- **Every run of a session is that of a new processor**, and the processor stays as it was
built. -/
theorem runs_eq : ∀ (calls : List (Source × Sink)) {p : Processor}, BuiltFrom s selecting p →
    (p.runs calls).1 =
        calls.map (fun call => (ofSubstitution s selecting).run call.1 call.2) ∧
      BuiltFrom s selecting (p.runs calls).2
  | [], _, h => ⟨rfl, h⟩
  | (source, sink) :: calls, p, h => by
    obtain ⟨houtcomes, hlast⟩ := runs_eq calls (h.after (p.run source sink))
    refine ⟨?_, hlast⟩
    rw [runs, List.map_cons]
    simp only
    rw [houtcomes, h.run_eq]

/-! ### What is counted -/

/-- Writing counts no line, whatever the sink does. -/
theorem write_counts : ∀ (copies : List (List Bytes)) (s : Progress),
    (write copies s).2.line = s.line ∧ (write copies s).2.stats.read = s.stats.read
  | [], _ => ⟨rfl, rfl⟩
  | copy :: copies, s => by
    rw [write]
    rcases s.sink.writeEach copy with ⟨error, sink⟩
    cases error with
    | some cause => exact ⟨rfl, rfl⟩
    | none => exact write_counts copies _

/-- A line that is read counts as one, also if it cannot be written. -/
theorem step_counts (p : Processor) (s : Progress) (line : Bytes) :
    (p.step s line).2.line = s.line + 1 ∧ (p.step s line).2.stats.read = s.stats.read + 1 := by
  unfold step
  simp only
  obtain ⟨hline, hread⟩ := write_counts (p.line (s.line + 1) line).copies
    { s with
      line := s.line + 1
      stats :=
        { s.stats with
          read := s.stats.read + 1
          changed := s.stats.changed + (if (p.line (s.line + 1) line).isChange then 1 else 0) }
      dropped :=
        if p.line (s.line + 1) line == .dropped then (s.line + 1) :: s.dropped else s.dropped }
  exact ⟨hline, hread⟩

/-- **The counter climbs by one with each line** until the steps stop: behind some number `n` of
lines they have come as far as they come, and after each of the first `k` lines before that they
have counted `k` more. -/
theorem steps_counts (p : Processor) : ∀ (lines : List Bytes) (s : Progress),
    ∃ n ≤ lines.length, p.steps s (lines.take n) = p.steps s lines ∧
      ∀ k ≤ n, (p.steps s (lines.take k)).2.line = s.line + k ∧
        (p.steps s (lines.take k)).2.stats.read = s.stats.read + k
  | [], s => by
    refine ⟨0, Nat.le_refl _, rfl, fun k hk => ?_⟩
    obtain rfl : k = 0 := Nat.le_zero.mp hk
    exact ⟨rfl, rfl⟩
  | line :: lines, s => by
    obtain ⟨hline, hread⟩ := p.step_counts s line
    rcases hstep : p.step s line with ⟨error, s'⟩
    rw [hstep] at hline hread
    simp only at hline hread
    cases error with
    | some cause =>
      -- the write fails, and no further line is read
      have hstop : ∀ rest, p.steps s (line :: rest) = (some cause, s') := by
        intro rest
        rw [steps, hstep]
      refine ⟨1, Nat.le_add_left _ _, ?_, fun k hk => ?_⟩
      · rw [List.take_succ_cons, hstop, hstop]
      · cases k with
        | zero => exact ⟨rfl, rfl⟩
        | succ k =>
          have hk : k = 0 := by omega
          rw [List.take_succ_cons, hstop, hline, hread, hk]
          exact ⟨rfl, rfl⟩
    | none =>
      have hnext : ∀ rest, p.steps s (line :: rest) = p.steps s' rest := by
        intro rest
        rw [steps, hstep]
      obtain ⟨n, hn, hsame, hcounts⟩ := steps_counts p lines s'
      refine ⟨n + 1, Nat.succ_le_succ hn, ?_, fun k hk => ?_⟩
      · rw [List.take_succ_cons, hnext, hnext, hsame]
      · cases k with
        | zero => exact ⟨rfl, rfl⟩
        | succ k =>
          obtain ⟨hl, hr⟩ := hcounts k (Nat.le_of_succ_le_succ hk)
          rw [List.take_succ_cons, hnext, hl, hr, hline, hread]
          constructor <;> omega

/-- How far a run has come when it has read its first `k` lines. -/
def progressAt (p : Processor) (source : Source) (sink : Sink) (k : Nat) : Progress :=
  (p.steps (Progress.fresh sink) (source.lines.take k)).2

/-- **A run counts its own lines.** It stops behind as many lines as its counter tells in the end,
and before that, after each line, the counter tells how many it has read. -/
theorem progressAt_counts (p : Processor) (source : Source) (sink : Sink) :
    let o := p.run source sink
    o.progress.line ≤ source.lines.length ∧ p.progressAt source sink o.progress.line = o.progress ∧
      ∀ k ≤ o.progress.line, (p.progressAt source sink k).line = k ∧
        (p.progressAt source sink k).stats.read = k := by
  intro o
  obtain ⟨n, hn, hsame, hcounts⟩ := p.steps_counts source.lines (Progress.fresh sink)
  have hlast : p.progressAt source sink n = o.progress := by
    rw [progressAt, hsame, p.progress_run]
  have hfresh : ∀ k ≤ n, (p.progressAt source sink k).line = k ∧
      (p.progressAt source sink k).stats.read = k := by
    intro k hk
    obtain ⟨hl, hr⟩ := hcounts k hk
    exact ⟨hl.trans (Nat.zero_add k), hr.trans (Nat.zero_add k)⟩
  have hcount : o.progress.line = n := by
    rw [← hlast]
    exact (hfresh n (Nat.le_refl n)).1
  rw [hcount]
  exact ⟨hn, hlast, hfresh⟩

/-- **A processor carries nothing from one run to the next.** After any session its outcomes are
those of new processors, and the processor `p` that is left has the substitution and the
restriction it was built with. The next run, over any source and into any sink, does what that of a
new processor does and leaves what that leaves. After it the counter tells the lines that this run
has read, and during it the counter tells after each line how many lines the run has read. -/
theorem runs_as_new (s : Substitution) (selecting : Bool) (calls : List (Source × Sink)) :
    let new := ofSubstitution s selecting
    let p := (new.runs calls).2
    (new.runs calls).1 = calls.map (fun call => new.run call.1 call.2) ∧
      p.substitution = s ∧ p.onlyRange = new.onlyRange ∧
      ∀ source sink,
        let o := p.run source sink
        o = new.run source sink ∧ p.after o = new.after o ∧
          (p.after o).currentLine = o.progress.stats.read ∧
          (p.after o).currentLine ≤ source.lines.length ∧
          p.progressAt source sink (p.after o).currentLine = o.progress ∧
          ∀ k ≤ (p.after o).currentLine, (p.progressAt source sink k).line = k := by
  intro new p
  obtain ⟨houtcomes, hbuilt⟩ := runs_eq calls (builtFrom_new s selecting)
  refine ⟨houtcomes, hbuilt.substitution, hbuilt.onlyRange, fun source sink => ?_⟩
  intro o
  obtain ⟨hle, hlast, hcounts⟩ := p.progressAt_counts source sink
  have hread : o.progress.stats.read = o.progress.line := by
    have hend := (hcounts _ (Nat.le_refl _)).2
    rw [hlast] at hend
    exact hend
  refine ⟨hbuilt.run_eq source sink, hbuilt.after_eq o, hread.symm, hle, hlast, fun k hk => ?_⟩
  exact (hcounts k hk).1

end Processor
end StreamEditor
