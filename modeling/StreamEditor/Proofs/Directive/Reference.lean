/-
# Flags without effect

Under the reference semantics a directive means to replace all matches of its pattern, and case
matters, whatever its flag says; so does the flag `g` under the sed semantics. Directives of one
pattern and one replacement that mean this fail alike or act alike: neither the verb nor the flag
reaches the pattern that is compiled or the lines that are written (`actsAlike_of_replacesAll`).

Key definitions: `Directive.ActsAlike`, `Directive.Parts.ReplacesAll`.
Key theorem: `Directive.parse_reference`.
-/
import StreamEditor.Proofs.Directive.Grammar
import StreamEditor.Proofs.Processor.Alike

namespace StreamEditor
namespace Directive

/-- Outcomes of parsing that no run tells apart: the same fault of the pattern, or substitutions
whose processors run alike, each restricted to its range or not. -/
inductive ActsAlike : Except EditError Substitution → Except EditError Substitution → Prop
  | pattern (e : Regex.PatternError) : ActsAlike (.error (.pattern e)) (.error (.pattern e))
  | processors {s t : Substitution} : (∀ restricted restricted',
      (Processor.ofSubstitution s restricted).RunsAlike
        (Processor.ofSubstitution t restricted')) → ActsAlike (.ok s) (.ok t)

/-- Fields that ask for all matches to be replaced, where case matters. -/
def Parts.ReplacesAll (semantics : FlagSemantics) (p : Parts) : Prop :=
  semantics = .reference ∨ p.flag = "g"

variable {semantics semantics' : FlagSemantics} {p q : Parts}

/-- The substitution of four fields is built from them, whether ranges are allowed or not. -/
theorem parse_text (h : p.SlashFree) (selecting : Bool) (semantics : FlagSemantics) :
    parse selecting semantics p.text = build semantics p none := by
  have hslash : '/' ∈ p.text.toList := by simp [Parts.text]
  have hparts : parts p.text = .ok p := (parts_eq_ok_iff _ _).mpr ⟨h, rfl⟩
  unfold parse classify
  rw [expand_of_mem hslash (by decide), hparts]

theorem Parts.ReplacesAll.caseful (h : p.ReplacesAll semantics) :
    (semantics == .sed && p.flag == "gi") = false := by
  rcases h with rfl | hflag
  · rfl
  · rw [hflag]
    exact caseful_g semantics

/-- The substitution of such fields replaces all matches, -/
theorem Parts.ReplacesAll.substitution (h : p.ReplacesAll semantics) (pattern : Regex) :
    Substitution.ReplacesAll
      ⟨p.command, pattern, p.replacement, .ofToken p.flag, p.flag, none, semantics⟩ := by
  rcases h with rfl | hflag
  · exact .reference rfl
  · exact .global (by rw [hflag]; rfl)

/-- and an error or a pattern comes from the second field, where case matters. -/
theorem Parts.ReplacesAll.build_eq (h : p.ReplacesAll semantics) :
    build semantics p none =
      match Regex.compilePattern p.pattern false with
      | .error e => .error (.pattern e)
      | .ok pattern =>
        .ok ⟨p.command, pattern, p.replacement, .ofToken p.flag, p.flag, none, semantics⟩ := by
  cases hc : Regex.compilePattern p.pattern false with
  | error e => exact build_of_error (by rw [h.caseful, hc]) none
  | ok pattern => exact build_of_ok (by rw [h.caseful, hc]) none

/-- **Directives that replace all matches of one pattern by one template act alike**, whatever
else they are written with. -/
theorem actsAlike_of_replacesAll (hp : p.SlashFree) (hq : q.SlashFree)
    (hpattern : p.pattern = q.pattern) (hreplacement : p.replacement = q.replacement)
    (hpall : p.ReplacesAll semantics) (hqall : q.ReplacesAll semantics')
    (selecting selecting' : Bool) :
    ActsAlike (parse selecting semantics p.text) (parse selecting' semantics' q.text) := by
  rw [parse_text hp, parse_text hq, hpall.build_eq, hqall.build_eq, hpattern]
  cases Regex.compilePattern q.pattern false with
  | error e => exact .pattern e
  | ok pattern =>
    refine .processors fun restricted restricted' => ?_
    have hs := hpall.substitution pattern
    have ht := hqall.substitution pattern
    exact Processor.runsAlike_of_replacesAll (Bool.and_false _) (Bool.and_false _) hs ht rfl
      hreplacement

/-- **Under the reference semantics verb and flag have no effect.** Directives of one pattern and
one replacement either fail with the same fault of the pattern, or both parse, and then their
processors run alike, whether ranges are allowed or not; and so does the directive with the flag
`g` under the sed semantics. -/
theorem parse_reference {command command' pattern replacement flag flag' : String}
    (h : Parts.SlashFree ⟨command, pattern, replacement, flag⟩)
    (h' : Parts.SlashFree ⟨command', pattern, replacement, flag'⟩) (selecting selecting' : Bool) :
    let plain := parse selecting .reference (Parts.text ⟨command, pattern, replacement, flag⟩)
    ActsAlike plain
        (parse selecting' .reference (Parts.text ⟨command', pattern, replacement, flag'⟩)) ∧
      ActsAlike plain
        (parse selecting' .sed (Parts.text ⟨command', pattern, replacement, "g"⟩)) := by
  intro plain
  have hall : Parts.ReplacesAll .reference ⟨command, pattern, replacement, flag⟩ := .inl rfl
  have hslash : '/' ∉ "g".toList := by decide
  have hglobal : Parts.SlashFree ⟨command', pattern, replacement, "g"⟩ :=
    ⟨h'.command, h'.pattern, h'.replacement, hslash⟩
  constructor
  · exact actsAlike_of_replacesAll h h' rfl rfl hall (.inl rfl) selecting selecting'
  · exact actsAlike_of_replacesAll h hglobal rfl rfl hall (.inr rfl) selecting selecting'

/-- A flag that drops lines, one that ignores case, and another verb. -/
theorem parse_reference_sample :
    ActsAlike (parse false .reference "s/a/b/d") (parse true .reference "y/a/b/gi") ∧
      ActsAlike (parse false .reference "s/a/b/d") (parse true .sed "y/a/b/g") := by
  have h : Parts.SlashFree ⟨"s", "a", "b", "d"⟩ := ⟨by decide, by decide, by decide, by decide⟩
  have h' : Parts.SlashFree ⟨"y", "a", "b", "gi"⟩ := ⟨by decide, by decide, by decide, by decide⟩
  exact parse_reference h h' false true

end Directive
end StreamEditor
