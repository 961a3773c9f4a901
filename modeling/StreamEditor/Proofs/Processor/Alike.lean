/-
# Processors that run alike

A run reads of its processor what becomes of each line under its number, and nothing else. Two
processors that make the same of every line therefore run alike, over every source and into every
sink, failing or not (`runsAlike_of_line`). Two processors that are not restricted and replace all
matches of one pattern by one template are such a pair, whatever verb, flag and semantics stand
beside these (`runsAlike_of_replacesAll`).

Key definitions: `Processor.RunsAlike`, `Substitution.ReplacesAll`.
Key theorems: `Processor.runsAlike_of_line`, `Processor.runsAlike_of_replacesAll`.
-/
import StreamEditor.Processor

namespace StreamEditor

/-- A substitution that replaces all matches in a line: flags are not executed, or the flag asks
for it. -/
inductive Substitution.ReplacesAll (s : Substitution) : Prop
  | reference : s.semantics = .reference → ReplacesAll s
  | global : s.flag = .global → ReplacesAll s
  | globalIgnoreCase : s.flag = .globalIgnoreCase → ReplacesAll s

theorem Substitution.edit_of_replacesAll {s : Substitution} (h : s.ReplacesAll) (doubling : Bool)
    (number : Option Nat) (line : Bytes) :
    s.edit doubling number line =
      kept line number false (s.pattern.replaceAll? s.replacement line) := by
  unfold edit
  cases h with
  | reference hs => rw [hs]
  | global hf =>
    rw [hf]
    cases s.semantics <;> rfl
  | globalIgnoreCase hf =>
    rw [hf]
    cases s.semantics <;> rfl

namespace Processor

variable {p q : Processor}

/-- Processors that no run tells apart: over every source and into every sink they write the same
bytes, count the same, end with the same error, and have read as many lines. -/
structure RunsAlike (p q : Processor) : Prop where
  out : ∀ source sink, (p.run source sink).out = (q.run source sink).out
  stats : ∀ source sink, (p.run source sink).progress.stats = (q.run source sink).progress.stats
  error : ∀ source sink, (p.run source sink).error = (q.run source sink).error
  result : ∀ source sink, (p.run source sink).result = (q.run source sink).result
  currentLine : ∀ source sink,
    (p.after (p.run source sink)).currentLine = (q.after (q.run source sink)).currentLine

/-- A step reads of its processor what becomes of the line. -/
theorem step_of_line (h : ∀ i line, p.line i line = q.line i line) (s : Progress) (line : Bytes) :
    p.step s line = q.step s line := by
  unfold step
  simp only [h]

/-- So do the steps of a run. -/
theorem steps_of_line (h : ∀ i line, p.line i line = q.line i line) :
    ∀ (lines : List Bytes) (s : Progress), p.steps s lines = q.steps s lines
  | [], _ => rfl
  | line :: lines, s => by
    rw [steps, steps, step_of_line h]
    rcases q.step s line with ⟨error, s'⟩
    cases error with
    | none => exact steps_of_line h lines s'
    | some cause => rfl

/-- **Processors that make the same of every line** come to the same in every run, -/
theorem run_of_line (h : ∀ i line, p.line i line = q.line i line) (source : Source) (sink : Sink) :
    p.run source sink = q.run source sink := by
  unfold run
  rw [steps_of_line h]

/-- and so they run alike. -/
theorem runsAlike_of_line (h : ∀ i line, p.line i line = q.line i line) : p.RunsAlike q := by
  have hrun : ∀ source sink, p.run source sink = q.run source sink := run_of_line h
  constructor <;> intro source sink
  all_goals simp only [hrun, currentLine_after]

/-- What becomes of a line where all matches are replaced and runs are not restricted. -/
theorem line_of_replacesAll (hrange : p.onlyRange = false) (hall : p.substitution.ReplacesAll)
    (i : Nat) (line : Bytes) :
    p.line i line = Substitution.kept line none false
      (p.substitution.pattern.replaceAll? p.substitution.replacement line) := by
  unfold Processor.line inScope
  rw [hrange, Substitution.edit_of_replacesAll hall]
  rfl

/-- **Verb, flag and semantics have no effect where all matches are replaced**, as long as runs are
not restricted to a range. -/
theorem runsAlike_of_replacesAll (hp : p.onlyRange = false) (hq : q.onlyRange = false)
    (hps : p.substitution.ReplacesAll) (hqs : q.substitution.ReplacesAll)
    (hpattern : p.substitution.pattern = q.substitution.pattern)
    (hreplacement : p.substitution.replacement = q.substitution.replacement) : p.RunsAlike q := by
  apply runsAlike_of_line
  intro i line
  rw [line_of_replacesAll hp hps, line_of_replacesAll hq hqs, hpattern, hreplacement]

end Processor
end StreamEditor
