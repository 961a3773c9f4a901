/-
# Directives that mean the same

Substitutions are compared by the texts they were written with, and a text does not tell for which
case setting a pattern was compiled. A substitution that a directive means is settled by its texts
all the same: its pattern is what its text compiles to, and case is ignored exactly if flags are
executed and the flag asks for it (`Denotes.compiledForFlag`). So two directives whose
substitutions compare equal mean one substitution, and their processors run alike.

Key definition: `Substitution.CompiledForFlag`.
Key theorems: `Substitution.eq_of_sameAs`, `Directive.parse_sameAs`.
-/
import StreamEditor.Proofs.Directive.Grammar
import StreamEditor.Proofs.Processor.Alike

namespace StreamEditor

namespace Substitution

variable {s t : Substitution}

/-- A substitution whose pattern was compiled for its flag: it is what its text compiles to, and
case is ignored exactly if flags are executed and the flag is `gi`. -/
structure CompiledForFlag (s : Substitution) : Prop where
  compiled : Regex.compilePattern s.pattern.pattern s.pattern.ignoreCase = .ok s.pattern
  ignoreCase_iff : s.pattern.ignoreCase = true ↔ s.semantics = .sed ∧ s.flag = .globalIgnoreCase

/-- Substitutions compare equal if all they were written with is equal. -/
theorem sameAs_iff : s.sameAs t = true ↔
    s.command = t.command ∧ s.pattern.pattern = t.pattern.pattern ∧
      s.replacement = t.replacement ∧ s.flag = t.flag ∧ s.flagToken = t.flagToken ∧
      s.range = t.range ∧ s.semantics = t.semantics := by
  simp [sameAs, and_assoc]

/-- Patterns compiled for one flag under one semantics are equal if their texts are. -/
theorem CompiledForFlag.pattern_eq (hs : s.CompiledForFlag) (ht : t.CompiledForFlag)
    (htext : s.pattern.pattern = t.pattern.pattern) (hflag : s.flag = t.flag)
    (hsemantics : s.semantics = t.semantics) : s.pattern = t.pattern := by
  have hcase : s.pattern.ignoreCase = t.pattern.ignoreCase := by
    rw [Bool.eq_iff_iff, hs.ignoreCase_iff, ht.ignoreCase_iff, hflag, hsemantics]
  apply Except.ok.inj
  calc Except.ok s.pattern
      = Regex.compilePattern s.pattern.pattern s.pattern.ignoreCase := hs.compiled.symm
    _ = Regex.compilePattern t.pattern.pattern t.pattern.ignoreCase := by rw [htext, hcase]
    _ = Except.ok t.pattern := ht.compiled

/-- **Substitutions that compare equal are equal**, if their patterns were compiled for their
flags. -/
theorem eq_of_sameAs (hs : s.CompiledForFlag) (ht : t.CompiledForFlag) (h : s.sameAs t = true) :
    s = t := by
  obtain ⟨hcommand, htext, hreplacement, hflag, htoken, hrange, hsemantics⟩ := sameAs_iff.mp h
  have hpattern : s.pattern = t.pattern := hs.pattern_eq ht htext hflag hsemantics
  cases s
  cases t
  simp only [mk.injEq]
  exact ⟨hcommand, hpattern, hreplacement, hflag, htoken, hrange, hsemantics⟩

/-- Two patterns of one text, one compiled with case and one without, compare equal and match
differently. -/
example :
    let caseful : Regex := ⟨"a", false, .ofExpr (.chars ⟨[⟨97, 97⟩]⟩), []⟩
    let caseless : Regex := ⟨"a", true, .ofExpr (.chars ⟨[⟨65, 65⟩, ⟨97, 97⟩]⟩), []⟩
    let s : Substitution := ⟨"s", caseful, "b", .global, "g", none, .sed⟩
    s.sameAs { s with pattern := caseless } = true ∧
      caseful.isMatch [65] = false ∧ caseless.isMatch [65] = true := by
  decide +kernel

end Substitution

namespace Directive

/-- A directive's pattern is compiled for its flag. A range is compiled for the flag `g` and gets
another flag afterwards, but case matters under either. -/
theorem Denotes.compiledForFlag {selecting : Bool} {semantics : FlagSemantics} {text : String}
    {s : Substitution} (h : Denotes selecting semantics text (.ok s)) : s.CompiledForFlag := by
  cases h with
  | @substitution p flag pattern hfree hflag hc =>
    obtain ⟨htext, hcase⟩ := Regex.pattern_of_compilePattern hc
    have hignore : pattern.ignoreCase = semantics.ignoresCase flag := by
      rw [hcase, ← ignoresCase_ofToken, (SubstitutionFlag.means_iff _ _).mp hflag]
    refine ⟨?_, ?_⟩
    · simp only [htext, hcase, hc]
    · simp only [hignore, FlagSemantics.ignoresCase, Bool.and_eq_true, beq_iff_eq]
  | @range text range pattern hs hslashes hrange hc =>
    obtain ⟨htext, hcase⟩ := Regex.pattern_of_compilePattern hc
    refine ⟨?_, ?_⟩
    · simp only [htext, hcase, hc]
    · have hflag : SubstitutionFlag.print ≠ .globalIgnoreCase := by decide
      simp only [hcase]
      exact iff_of_false Bool.false_ne_true fun h => hflag h.2

/-- **Directives whose substitutions compare equal run alike.** The patterns of both are compiled
for their flags, so the substitutions are equal, and so is every run of their processors. -/
theorem parse_sameAs {selecting selecting' : Bool} {semantics semantics' : FlagSemantics}
    {raw raw' : String} {s t : Substitution} (hs : parse selecting semantics raw = .ok s)
    (ht : parse selecting' semantics' raw' = .ok t) :
    s.CompiledForFlag ∧ t.CompiledForFlag ∧
      (s.sameAs t = true → s = t ∧ ∀ restricted,
        (Processor.ofSubstitution s restricted).RunsAlike
          (Processor.ofSubstitution t restricted)) := by
  have hcs : s.CompiledForFlag := (hs ▸ denotes_parse selecting semantics raw).compiledForFlag
  have hct : t.CompiledForFlag := (ht ▸ denotes_parse selecting' semantics' raw').compiledForFlag
  refine ⟨hcs, hct, fun h => ?_⟩
  obtain rfl : s = t := Substitution.eq_of_sameAs hcs hct h
  refine ⟨rfl, fun restricted => ?_⟩
  exact Processor.runsAlike_of_line fun _ _ => rfl

/-- A range is written in two ways, and case matters to its pattern under the sed semantics. -/
theorem parse_sameAs_sample :
    ∃ s t, parse true .sed "2,3p" = .ok s ∧ parse true .sed "+2,03" = .ok t ∧
      s.sameAs t = true ∧ s.pattern.ignoreCase = false ∧
      (Processor.ofSubstitution s true).RunsAlike (Processor.ofSubstitution t true) := by
  obtain ⟨s, hs⟩ : ∃ s, parse true .sed "2,3p" = .ok s := ⟨_, rfl⟩
  have ht : parse true .sed "+2,03" = .ok s := by
    rw [← hs]
    rfl
  obtain ⟨hcompiled, -, halike⟩ := parse_sameAs hs ht
  have hsame : s.sameAs s = true := Substitution.sameAs_iff.mpr ⟨rfl, rfl, rfl, rfl, rfl, rfl, rfl⟩
  have hcase : s.pattern.ignoreCase = false := by
    cases hs
    rfl
  exact ⟨s, s, hs, ht, hsame, hcase, (halike hsame).2 true⟩

end Directive
end StreamEditor
