/-
# Allowing ranges keeps the other directives

Where ranges are allowed, a directive of four fields means what it means where they are not, and a
processor made of it does the same whether runs are to be restricted or not: it has no range
(`Denotes.allow`, `Processor.ofSubstitution_of_range_none`). Only a text of another number of
fields is affected: it is an error where ranges are not allowed, and a range or another error where
they are.

Key theorem: `Directive.parse_selecting`.
-/
import StreamEditor.Processor
import StreamEditor.Proofs.Directive.Grammar

namespace StreamEditor

/-- A processor without a range is not restricted. -/
theorem Processor.ofSubstitution_of_range_none {s : Substitution} (h : s.range = none)
    (selecting : Bool) : ofSubstitution s selecting = ⟨s, false, 0⟩ := by
  rw [ofSubstitution, h, Option.isSome_none, Bool.and_false]

namespace Directive

variable {selecting : Bool} {semantics : FlagSemantics} {text : String} {s : Substitution}

/-- A substitution means the same where ranges are allowed, and has none itself. -/
theorem Denotes.allow (h : Denotes false semantics text (.ok s)) :
    Denotes true semantics text (.ok s) ∧ s.range = none := by
  cases h with
  | substitution hfree hflag hc => exact ⟨.substitution hfree hflag hc, rfl⟩
  | range hs => cases hs

theorem Denotes.allow_of_pattern {e : Regex.PatternError}
    (h : Denotes false semantics text (.error (.pattern e))) :
    Denotes true semantics text (.error (.pattern e)) := by
  cases h with
  | pattern hfree hc => exact .pattern hfree hc

/-- A text with another number of fields is a range where ranges are allowed, or an error that says
why it is none. -/
theorem Denotes.allow_of_fieldCount {directive : String} {found : Nat}
    (h : Denotes false semantics text (.error (.directive (.fieldCount directive found)))) :
    (∃ s range, Denotes true semantics text (.ok s) ∧ s.range = some range ∧ s.flag = .print ∧
      s.pattern.pattern = "" ∧ s.replacement = "") ∨
    ∃ reason, Denotes true semantics text (.error (.directive (.range text reason))) := by
  cases h with
  | fieldCount _ hslashes =>
    cases hrange : LineRange.parse text with
    | ok range =>
      obtain ⟨pattern, hc⟩ := compilePattern_empty
      exact .inl ⟨_, range, .range rfl hslashes hrange hc, rfl, rfl,
        (Regex.pattern_of_compilePattern hc).1, rfl⟩
    | error reason => exact .inr ⟨reason, .noRange rfl hslashes hrange⟩

/-- The range of a substitution is the one that its directive is. -/
theorem Denotes.range_iff (h : Denotes selecting semantics text (.ok s)) (range : LineRange) :
    s.range = some range ↔
      selecting = true ∧ slashes text ≠ 3 ∧ LineRange.parse text = .ok range := by
  cases h with
  | substitution hfree =>
    have hthree := (slashes_eq_three_iff _).mpr ⟨_, hfree, rfl⟩
    exact iff_of_false nofun fun h => h.2.1 hthree
  | range hs hslashes hrange =>
    rw [hrange]
    simp [hs, hslashes]

/-- A processor is restricted to a range if its directive is one. -/
theorem Denotes.onlyRange_iff (h : Denotes selecting semantics text (.ok s)) :
    (Processor.ofSubstitution s selecting).onlyRange = true ↔
      selecting = true ∧ slashes text ≠ 3 ∧ ∃ range, LineRange.parse text = .ok range := by
  rw [Processor.ofSubstitution, Bool.and_eq_true, Option.isSome_iff_exists]
  constructor
  · rintro ⟨hs, range, hrange⟩
    obtain ⟨-, hslashes, hparse⟩ := (h.range_iff range).mp hrange
    exact ⟨hs, hslashes, range, hparse⟩
  · rintro ⟨hs, hslashes, range, hparse⟩
    exact ⟨hs, range, (h.range_iff range).mpr ⟨hs, hslashes, hparse⟩⟩

/-- **Allowing ranges keeps the other directives.** What parses where ranges are not allowed parses
to the same where they are, and its processor runs alike over every source into every sink, whether
it is to be restricted or not. A pattern that does not compile is the same error. A text that has
another number of fields is a range, which prints its lines as they are, or an error that says why it
is none. And a processor is restricted exactly if its directive is a range. -/
theorem parse_selecting (semantics : FlagSemantics) (raw : String) :
    (∀ s, parse false semantics raw = .ok s → parse true semantics raw = .ok s ∧
      ∀ source sink,
        let restricted := (Processor.ofSubstitution s true).run source sink
        let plain := (Processor.ofSubstitution s false).run source sink
        restricted.out = plain.out ∧ restricted.progress.stats = plain.progress.stats ∧
          restricted.error = plain.error ∧ restricted.result = plain.result ∧
          ((Processor.ofSubstitution s true).after restricted).currentLine =
            ((Processor.ofSubstitution s false).after plain).currentLine) ∧
    (∀ e, parse false semantics raw = .error (.pattern e) →
      parse true semantics raw = .error (.pattern e)) ∧
    (∀ directive found,
      parse false semantics raw = .error (.directive (.fieldCount directive found)) →
        (∃ s range, parse true semantics raw = .ok s ∧ s.range = some range ∧ s.flag = .print ∧
          s.pattern.pattern = "" ∧ s.replacement = "") ∨
        ∃ reason, parse true semantics raw = .error (.directive (.range (expand raw) reason))) ∧
    (∀ selecting s, parse selecting semantics raw = .ok s →
      ((Processor.ofSubstitution s selecting).onlyRange = true ↔
        selecting = true ∧ slashes (expand raw) ≠ 3 ∧
          ∃ range, LineRange.parse (expand raw) = .ok range)) := by
  have hdenotes {selecting result} (h : parse selecting semantics raw = result) :
      Denotes selecting semantics (expand raw) result := h ▸ denotes_parse _ _ raw
  refine ⟨fun s hs => ?_, fun e he => ?_, fun directive found he => ?_, fun selecting s hs => ?_⟩
  · obtain ⟨hden, hnone⟩ := (hdenotes hs).allow
    refine ⟨parse_of_denotes hden, fun source sink => ?_⟩
    rw [Processor.ofSubstitution_of_range_none hnone, Processor.ofSubstitution_of_range_none hnone]
    exact ⟨rfl, rfl, rfl, rfl, rfl⟩
  · exact parse_of_denotes (hdenotes he).allow_of_pattern
  · rcases (hdenotes he).allow_of_fieldCount with ⟨s, range, hden, hs⟩ | ⟨reason, hden⟩
    · exact .inl ⟨s, range, parse_of_denotes hden, hs⟩
    · exact .inr ⟨reason, parse_of_denotes hden⟩
  · exact (hdenotes hs).onlyRange_iff

end Directive
end StreamEditor
