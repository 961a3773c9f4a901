/-
# The lines that count as changed

A line counts as changed when it is written and the pattern matches in it. Only a flag that deletes
keeps a line in scope from being written, and it does so to just the lines in which the pattern
matches (`isChange_line`). So a run counts the lines in scope in which the pattern matches, and a
run that deletes them counts none (`run_changed`).

Key definitions: `Substitution.Deletes`, `Processor.matching`.
Key theorems: `Processor.isChange_line`, `Processor.run_changed`.
-/
import StreamEditor.Directive
import StreamEditor.Proofs.Processor.Emission

namespace StreamEditor

/-- A substitution that deletes lines: its flag says so, and flags are executed. -/
structure Substitution.Deletes (s : Substitution) : Prop where
  semantics : s.semantics = .sed
  flag : s.flag = .delete

instance (s : Substitution) : Decidable s.Deletes :=
  decidable_of_iff (s.semantics = .sed ∧ s.flag = .delete)
    ⟨fun h => ⟨h.1, h.2⟩, fun h => ⟨h.semantics, h.flag⟩⟩

/-- No text is written for a line in scope just if the line is deleted. -/
theorem Substitution.texts_eq_nil_iff (s : Substitution) (restricted : Bool) (line : Bytes) :
    s.texts restricted line = [] ↔ s.Deletes ∧ s.matched line = true := by
  unfold texts
  cases hs : s.semantics with
  | reference => exact iff_of_false (by simp) fun h => by simp [h.1.semantics] at hs
  | sed =>
    cases hf : s.flag with
    | delete =>
      have hdeletes : s.Deletes := ⟨hs, hf⟩
      by_cases hm : s.matched line = true <;> simp [hm, hdeletes]
    | none => exact iff_of_false (by simp) fun h => by simp [h.1.flag] at hf
    | global => exact iff_of_false (by simp) fun h => by simp [h.1.flag] at hf
    | globalIgnoreCase => exact iff_of_false (by simp) fun h => by simp [h.1.flag] at hf
    | print =>
      refine iff_of_false ?_ fun h => by simp [h.1.flag] at hf
      simp only
      split <;> simp

namespace Processor

/-- The lines in scope in which the pattern matches, with their numbers; `i` lines stand before. -/
def matching (p : Processor) (i : Nat) (lines : List Bytes) : List (Bytes × Nat) :=
  (lines.zipIdx (i + 1)).filter fun x => p.inScope x.2 && p.substitution.pattern.isMatch x.1

/-- **A line counts as changed** if it is in scope, the pattern matches in it, and it is not
deleted for that. -/
theorem isChange_line (p : Processor) (i : Nat) (line : Bytes) :
    (p.line i line).isChange = (p.inScope i && p.substitution.pattern.isMatch line &&
      !decide p.substitution.Deletes) := by
  unfold Processor.line
  cases p.inScope i with
  | false => rfl
  | true =>
    have htexts := p.substitution.texts_eq_nil_iff (!!p.onlyRange) line
    have hchange := (p.substitution.edit_eq (!p.onlyRange)
      (if p.onlyRange then some i else none) line).2
    rw [if_pos rfl, hchange, Regex.isMatch_iff, Bool.true_and]
    change (!(p.substitution.texts (!!p.onlyRange) line).isEmpty && p.substitution.matched line) =
      (p.substitution.matched line && !decide p.substitution.Deletes)
    cases hm : p.substitution.matched line with
    | false => rw [Bool.and_false, Bool.false_and]
    | true =>
      rw [hm] at htexts
      rw [Bool.and_true, Bool.true_and, Bool.eq_iff_iff]
      simp only [Bool.not_eq_true', List.isEmpty_eq_false_iff, decide_eq_false_iff_not, ne_eq,
        htexts, and_true]

/-- The lines that count as changed are those in scope in which the pattern matches, unless such
lines are deleted. -/
theorem countP_results (p : Processor) : ∀ (lines : List Bytes) (i : Nat),
    (p.results i lines).countP (·.isChange) =
      if p.substitution.Deletes then 0 else (p.matching i lines).length
  | [], i => by simp [results, matching]
  | line :: lines, i => by
    have ih := countP_results p lines (i + 1)
    have hcons : p.matching i (line :: lines) =
        if p.inScope (i + 1) && p.substitution.pattern.isMatch line then
          (line, i + 1) :: p.matching (i + 1) lines
        else p.matching (i + 1) lines := by
      rw [matching, List.zipIdx_cons, List.filter_cons]
      rfl
    rw [results, List.countP_cons, ih, isChange_line, hcons]
    by_cases hd : p.substitution.Deletes
    · simp [hd]
    · simp only [hd, if_false, decide_false, Bool.not_false, Bool.and_true]
      split <;> simp

/-- **What a run counts as changed.** Over every source that delivers some bytes, and into every
sink that never fails, a run counts the lines in scope in which the pattern matches, whether they
are replaced, kept, or written twice; but a run that deletes them counts none. So its count is that
of these lines unless it deletes some. -/
theorem run_changed (s : Substitution) (selecting : Bool) {input : Bytes} {source : Source}
    {sink : Sink} (hsource : source.Delivers input) (hsink : sink.Unfailing) :
    let p := ofSubstitution s selecting
    let matching := ((physicalLines input).zipIdx 1).filter fun x =>
      p.inScope x.2 && s.pattern.isMatch x.1
    ∃ stats, (p.run source sink).result = .ok stats ∧
      stats.changed = (if s.Deletes then 0 else matching.length) ∧
      (stats.changed = matching.length ↔ (s.Deletes → matching = [])) := by
  intro p matching
  obtain ⟨-, hresult, -⟩ := p.run_delivered hsource hsink
  have hchanged : (Stats.after ⟨0, 0, 0⟩ (p.results 0 (physicalLines input))).changed =
      if s.Deletes then 0 else matching.length := by
    rw [Stats.after]
    simp only [Nat.zero_add]
    exact p.countP_results (physicalLines input) 0
  refine ⟨_, hresult, hchanged, ?_⟩
  rw [hchanged]
  by_cases hd : s.Deletes
  · rw [if_pos hd]
    constructor
    · exact fun h _ => List.eq_nil_of_length_eq_zero h.symm
    · exact fun h => by rw [h hd, List.length_nil]
  · rw [if_neg hd]
    exact iff_of_true rfl fun h => absurd h hd

/-- Three lines arrive in two reads with an interruption between them, and two of them match. -/
theorem run_changed_sample :
    let source : Source := [.data [97, 10, 98], .error (.bare .interrupted), .data [10, 97]]
    source.Delivers [97, 10, 98, 10, 97] ∧ reluctant.Unfailing ∧
      ∃ stats, ((ofSubstitution { sample with range := none } true).run source reluctant).result =
          .ok stats ∧ stats.changed = 2 := by
  intro source
  have hsource : source.Delivers [97, 10, 98, 10, 97] := ⟨0, by decide⟩
  obtain ⟨stats, hresult, hchanged, -⟩ :=
    run_changed { sample with range := none } true hsource reluctant_unfailing
  refine ⟨hsource, reluctant_unfailing, stats, hresult, ?_⟩
  rw [hchanged]
  decide +kernel

/-- The substitution `s/o//d` under the sed semantics. -/
def deletion : Substitution :=
  ⟨"s", ⟨"o", false, Regex.Program.ofExpr (.chars ⟨[⟨111, 111⟩]⟩), []⟩, "", .delete, "d", none,
    .sed⟩

/-- Of two lines the first matches, and it does not count. -/
theorem run_changed_of_deletes :
    let p := ofSubstitution deletion false
    let input := bytesOf "foo\nbar\n"
    Directive.parse false .sed "s/o//d" = .ok deletion ∧
      p.matching 0 (physicalLines input) = [(bytesOf "foo\n", 1)] ∧
      (p.run (.ofBytes input) .unlimited).result = .ok ⟨2, 1, 0⟩ := by
  intro p input
  have hmatching : (ofSubstitution deletion false).matching 0
      (physicalLines (bytesOf "foo\nbar\n")) = [(bytesOf "foo\n", 1)] := by decide +kernel
  have herror : ((ofSubstitution deletion false).run (.ofBytes (bytesOf "foo\nbar\n"))
      .unlimited).error.isNone = true := by decide +kernel
  have hstats : ((ofSubstitution deletion false).run (.ofBytes (bytesOf "foo\nbar\n"))
      .unlimited).progress.stats = ⟨2, 1, 0⟩ := by decide +kernel
  refine ⟨rfl, hmatching, ?_⟩
  rw [Outcome.result, Option.isNone_iff_eq_none.mp herror, hstats]

end Processor
end StreamEditor
