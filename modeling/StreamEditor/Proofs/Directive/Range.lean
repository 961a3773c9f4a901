/-
# Ranges print their lines

A range stands for the substitution that puts nothing in place of empty text. Such a substitution
leaves a line as it is, whatever bytes the line is made of and whether flags are executed or not
(`Substitution.edit_of_unchanging`), so a run that is restricted to the range writes the lines of
the range, each once, as it is, and behind its number (`Processor.output_of_selects`). Both
semantics write the same: in a restricted run the flag that prints a line again does not.

Key definitions: `Substitution.Unchanging`, `Processor.Selects`.
Key theorem: `Directive.run_range`.
-/
import StreamEditor.Proofs.Directive.Grammar
import StreamEditor.Proofs.LineRange
import StreamEditor.Proofs.Processor.Emission
import StreamEditor.Proofs.Regex.Unchanged

namespace StreamEditor

/-! ### Lines as they are -/

/-- A substitution that puts nothing in place of empty text and prints. -/
structure Substitution.Unchanging (s : Substitution) : Prop where
  pattern : s.pattern = .ofEmpty
  replacement : s.replacement = ""
  flag : s.flag = .print

/-- **An unchanging substitution keeps a line as it is**, and writes it once where lines are not
written twice. -/
theorem Substitution.edit_of_unchanging {s : Substitution} (h : s.Unchanging)
    (number : Option Nat) (line : Bytes) :
    s.edit false number line = .kept line true number false := by
  have hmatched : s.matched line = true := by
    rw [matched, h.pattern, Regex.allMatches_ofEmpty]
    rfl
  have hfirst : s.firstReplaced line = line := by
    rw [firstReplaced, h.pattern, h.replacement]
    exact Regex.withReplaced_ofEmpty line 1
  have hall : s.allReplaced line = line := by
    have htake := Regex.withReplaced_ofEmpty line (Regex.ofEmpty.allMatches line).length
    rw [List.take_length] at htake
    rw [allReplaced, h.pattern, h.replacement]
    exact htake
  unfold edit
  cases s.semantics with
  | reference =>
    have hkept := s.kept_all number line
    rw [hall, hmatched] at hkept
    exact hkept
  | sed =>
    have hkept := s.kept_first number false line
    rw [hfirst, hmatched] at hkept
    rw [h.flag]
    exact hkept

namespace Processor

/-! ### Lines selected -/

/-- A processor that selects lines by their numbers and writes those selected as they are. -/
def Selects (p : Processor) (chosen : Nat → Bool) : Prop :=
  ∀ i line, p.line i line = if chosen i then .kept line true (some i) false else .dropped

variable {p : Processor} {chosen : Nat → Bool}

/-- **What selected lines come to**: each of them once, behind its number and a tab. -/
theorem output_of_selects (h : p.Selects chosen) : ∀ (lines : List Bytes) (i : Nat),
    p.output i lines = ((lines.zipIdx (i + 1)).filter fun x => chosen x.2).flatMap
      fun x => decimalBytes x.2 ++ 9 :: x.1
  | [], _ => rfl
  | line :: lines, i => by
    rw [output_cons, h, output_of_selects h lines, List.zipIdx_cons, List.filter_cons]
    by_cases hc : chosen (i + 1) = true
    · simp only [hc, if_true, List.flatMap_cons]
      simp [LineResult.bytes, LineResult.copies, numbered]
    · simp only [hc]
      rfl

/-- Those selected are written once and count as changed. -/
theorem counts_of_selects (h : p.Selects chosen) : ∀ (lines : List Bytes) (i : Nat),
    ((p.results i lines).flatMap LineResult.copies).length =
        ((lines.zipIdx (i + 1)).filter fun x => chosen x.2).length ∧
      (p.results i lines).countP (·.isChange) =
        ((lines.zipIdx (i + 1)).filter fun x => chosen x.2).length
  | [], _ => ⟨rfl, rfl⟩
  | line :: lines, i => by
    obtain ⟨hcopies, hchanges⟩ := counts_of_selects h lines (i + 1)
    rw [results, h, List.flatMap_cons, List.length_append, List.countP_cons, hcopies, hchanges,
      List.zipIdx_cons, List.filter_cons]
    by_cases hc : chosen (i + 1) = true
    · simp only [hc, if_true, List.length_cons, LineResult.copies, LineResult.isChange,
        List.length_nil, Nat.add_comm, and_self]
    · simp only [hc]
      exact ⟨Nat.zero_add _, rfl⟩

/-- The processor of an unchanging substitution with a range selects the lines of the range. -/
theorem selects_of_range {s : Substitution} {range : LineRange} (h : s.Unchanging)
    (hrange : s.range = some range) : (ofSubstitution s true).Selects range.contains := by
  have honly : (ofSubstitution s true).onlyRange = true := by
    rw [ofSubstitution, hrange]
    rfl
  intro i line
  unfold Processor.line inScope
  rw [honly]
  simp only [Bool.not_true, Bool.false_or, if_true]
  rw [show (ofSubstitution s true).substitution = s from rfl, hrange, Option.any_some,
    s.edit_of_unchanging h]

end Processor

namespace Directive

/-- A range means the substitution that changes nothing, restricted to the range. -/
theorem parse_range {range : LineRange} (h : range.Fits) (semantics : FlagSemantics)
    (letter : Bool) :
    parse true semantics (range.text ++ LineRange.letter letter) =
      .ok ⟨"s", .ofEmpty, "", .print, "g", some range, semantics⟩ := by
  have hcomma : ',' ∈ (range.text ++ LineRange.letter letter).toList := by simp [LineRange.text]
  have hslash : '/' ∉ (range.text ++ LineRange.letter letter).toList :=
    LineRange.not_mem_text (by decide) (by decide) (by decide) (by decide)
  have hslashes : slashes (range.text ++ LineRange.letter letter) ≠ 3 := by
    rw [slashes, List.count_eq_zero_of_not_mem hslash]
    decide
  apply parse_of_denotes
  rw [expand_of_mem hcomma (by decide)]
  exact .range rfl hslashes (LineRange.parse_text h letter) Regex.compilePattern_ofEmpty

/-- **A range prints its lines as they are.** The text of a range with ends `a` and `b`, with or
without the letter behind it, is parsed, and a run restricted to it writes the lines `picked`, in
order, each once behind its number and a tab, and counts all lines as read and those as written. As
long as no line lies past the greatest number of 64 bits, these are the lines from `a` to `b`; a
line that does counts as that number. If the ends are in the wrong order, or one of them is out of
reach, nothing is written, and all lines are counted as read. -/
theorem run_range (a b : Int64) (letter : Bool) (semantics : FlagSemantics) {input : Bytes}
    {source : Source} {sink : Sink} (hsource : source.Delivers input) (hsink : sink.Unfailing) :
    let text := toString a.toInt ++ "," ++ toString b.toInt ++ (if letter then "p" else "")
    let lines := physicalLines input
    let picked := (lines.zipIdx 1).filter fun x =>
      a.toInt ≤ x.2 ∧ (x.2 ≤ b.toInt ∨ b.toInt = Numeral.greatest)
    ∃ s, parse true semantics text = .ok s ∧
      let o := (Processor.ofSubstitution s true).run source sink
      PhysicalLines input lines ∧
        o.out = (picked.flatMap fun x => decimalBytes x.2 ++ 9 :: x.1) ∧
        o.result = .ok ⟨lines.length, picked.length, picked.length⟩ ∧
        ((b.toInt = Numeral.greatest → lines.length ≤ Numeral.greatest) →
          picked = (lines.zipIdx 1).filter fun x => a.toInt ≤ x.2 ∧ x.2 ≤ b.toInt) ∧
        (b.toInt < a.toInt ∨ b.toInt < 1 ∨ lines.length < a.toInt →
          o.out = [] ∧ o.result = .ok ⟨lines.length, 0, 0⟩) := by
  intro text lines picked
  let range : LineRange := ⟨a.toInt, b.toInt⟩
  have hfits : range.Fits := ⟨Numeral.fits_toInt a, Numeral.fits_toInt b⟩
  let s : Substitution := ⟨"s", .ofEmpty, "", .print, "g", some range, semantics⟩
  have hselects : (Processor.ofSubstitution s true).Selects range.contains :=
    Processor.selects_of_range ⟨rfl, rfl, rfl⟩ rfl
  have hpicked : ((lines.zipIdx 1).filter fun x => range.contains x.2) = picked := by
    apply List.filter_congr
    intro x _
    rw [Bool.eq_iff_iff, LineRange.contains_iff hfits, decide_eq_true_eq]
  obtain ⟨hrun, hcount, -⟩ := (Processor.ofSubstitution s true).run_delivered hsource hsink
  have hout : ((Processor.ofSubstitution s true).run source sink).out =
      picked.flatMap fun x => decimalBytes x.2 ++ 9 :: x.1 := by
    rw [hrun, ← hpicked]
    exact Processor.output_of_selects hselects lines 0
  have hresult : ((Processor.ofSubstitution s true).run source sink).result =
      .ok ⟨lines.length, picked.length, picked.length⟩ := by
    obtain ⟨hcopies, hchanges⟩ := Processor.counts_of_selects hselects lines 0
    rw [hcount, Stats.after, hcopies, hchanges, Processor.length_results, Nat.zero_add, hpicked]
    simp only [Nat.zero_add]
    rfl
  refine ⟨s, parse_range hfits semantics letter, physicalLines_spec input, hout, hresult,
    fun hsize => ?_, fun hnone => ?_⟩
  · rw [← hpicked]
    apply List.filter_congr
    intro x hx
    have hlast : x.2 < lines.length + 1 := List.snd_lt_of_mem_zipIdx hx
    have hreach : range.stop = Numeral.greatest → (x.2 : Int) ≤ Numeral.greatest := by
      intro hstop
      have hall := hsize hstop
      omega
    rw [Bool.eq_iff_iff, LineRange.contains_iff_of_le hfits hreach, decide_eq_true_eq]
  · have hempty : picked = [] := by
      rw [← hpicked, List.filter_eq_nil_iff]
      intro x hx
      have hfirst : 1 ≤ x.2 := List.le_snd_of_mem_zipIdx hx
      have hlast : x.2 < lines.length + 1 := List.snd_lt_of_mem_zipIdx hx
      rw [LineRange.contains_eq_false hfits hfirst (Nat.le_of_lt_succ hlast) hnone]
      exact Bool.false_ne_true
    rw [hout, hresult, hempty]
    exact ⟨rfl, rfl⟩

/-- Two lines of three are in the range, the last of all bytes that make no character. -/
theorem run_range_sample :
    let source : Source := [.data [97, 10, 98], .error (.bare .interrupted), .data [10, 255]]
    source.Delivers [97, 10, 98, 10, 255] ∧ Processor.reluctant.Unfailing ∧
      ∃ s, parse true .sed "2,9p" = .ok s ∧
        ((Processor.ofSubstitution s true).run source Processor.reluctant).out =
          [50, 9, 98, 10, 51, 9, 255] := by
  intro source
  have hsource : source.Delivers [97, 10, 98, 10, 255] := ⟨0, by decide⟩
  obtain ⟨s, hs, -, hout, -⟩ :=
    run_range 2 9 true .sed hsource Processor.reluctant_unfailing
  refine ⟨hsource, Processor.reluctant_unfailing, s, hs, ?_⟩
  rw [hout]
  decide +kernel

end Directive
end StreamEditor
