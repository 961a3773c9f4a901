/-
# The language of directives

What a directive means is told by a relation between its text and the outcome (`Denotes`): four
fields without slashes spell a substitution, and any other text is a range of lines where ranges
are allowed. Every text has one outcome, and parsing gives it (`parse_eq_iff`).

Key definitions: `SubstitutionFlag.Means`, `Directive.Parts.text`, `Directive.Denotes`.
Key theorem: `Directive.parse_eq_iff`.
-/
import StreamEditor.Directive
import StreamEditor.Proofs.Text.Fields

namespace StreamEditor

/-- What the tokens of flags mean. -/
inductive SubstitutionFlag.Means : SubstitutionFlag → String → Prop
  | global : Means .global "g"
  | globalIgnoreCase : Means .globalIgnoreCase "gi"
  | delete : Means .delete "d"
  | print : Means .print "p"
  | none {token : String} : token ∉ ["g", "gi", "d", "p"] → Means .none token

theorem SubstitutionFlag.means_iff (flag : SubstitutionFlag) (token : String) :
    flag.Means token ↔ ofToken token = flag := by
  constructor
  · intro h
    cases h with
    | none h =>
      unfold ofToken
      split <;> simp_all
    | _ => rfl
  · rintro rfl
    unfold ofToken
    split
    · exact .global
    · exact .globalIgnoreCase
    · exact .delete
    · exact .print
    · exact .none (by simp_all)

theorem Regex.pattern_of_compile {pattern : String} {ignoreCase : Bool} {r : Regex}
    (h : compile pattern ignoreCase = .ok r) : r.pattern = pattern ∧ r.ignoreCase = ignoreCase := by
  unfold compile at h
  split at h
  · cases h
  · split at h
    · cases h
      exact ⟨rfl, rfl⟩
    · cases h

/-- A compiled pattern keeps its text and its case setting, -/
theorem Regex.pattern_of_compilePattern {pattern : String} {ignoreCase : Bool} {r : Regex}
    (h : compilePattern pattern ignoreCase = .ok r) :
    r.pattern = pattern ∧ r.ignoreCase = ignoreCase := by
  unfold compilePattern at h
  split at h
  · next hr =>
    cases h
    exact pattern_of_compile hr
  · cases h

/-- and the error of one that does not compile names it. -/
theorem Regex.pattern_of_error {pattern : String} {ignoreCase : Bool} {e : PatternError}
    (h : compilePattern pattern ignoreCase = .error e) : e.pattern = pattern := by
  unfold compilePattern at h
  split at h
  · cases h
  · cases h
    rfl

namespace Directive

/-- The text of some fields. -/
def Parts.text (p : Parts) : String :=
  p.command ++ "/" ++ p.pattern ++ "/" ++ p.replacement ++ "/" ++ p.flag

/-- A text that does not consist of `G` alone is not short for another one. -/
theorem expand_of_mem {raw : String} {c : Char} (hc : c ∈ raw.toList) (hne : c ≠ 'G') :
    expand raw = raw := by
  have hraw : raw ≠ "G" := by
    rintro rfl
    exact hne (List.mem_singleton.mp hc)
  simp [expand, hraw]

/-- Fields none of which contains a slash. -/
structure Parts.SlashFree (p : Parts) : Prop where
  command : '/' ∉ p.command.toList
  pattern : '/' ∉ p.pattern.toList
  replacement : '/' ∉ p.replacement.toList
  flag : '/' ∉ p.flag.toList

/-- The number of slashes in a text. -/
def slashes (text : String) : Nat := text.toList.count '/'

theorem split_text {p : Parts} (h : p.SlashFree) : Fields.split '/' p.text.toList =
    [p.command.toList, p.pattern.toList, p.replacement.toList, p.flag.toList] := by
  rw [Fields.split_eq_iff]
  refine ⟨List.cons_ne_nil _ _, ?_, by simp [Parts.text, Fields.join]⟩
  simp [h.command, h.pattern, h.replacement, h.flag]

/-- A text has four fields if it is the text of some without slashes, -/
theorem parts_eq_ok_iff (raw : String) (p : Parts) :
    parts raw = .ok p ↔ p.SlashFree ∧ p.text = raw := by
  constructor
  · intro h
    unfold parts at h
    split at h
    · next c t r f hs =>
      cases h
      obtain ⟨-, hfree, hjoin⟩ := (Fields.split_eq_iff _ _).mp hs
      refine ⟨⟨?_, ?_, ?_, ?_⟩, ?_⟩
      · simpa using hfree c (by simp)
      · simpa using hfree t (by simp)
      · simpa using hfree r (by simp)
      · simpa using hfree f (by simp)
      · apply String.toList_inj.mp
        rw [← hjoin]
        simp [Parts.text, Fields.join]
    · cases h
  · rintro ⟨hfree, rfl⟩
    rw [parts, split_text hfree]
    simp

/-- and otherwise one more than it has slashes. -/
theorem parts_eq_error_iff (raw : String) (n : Nat) :
    parts raw = .error n ↔ slashes raw ≠ 3 ∧ n = slashes raw + 1 := by
  have hlen := Fields.length_split '/' raw.toList
  unfold parts slashes
  split
  · next hs =>
    rw [hs] at hlen
    have hthree : raw.toList.count '/' = 3 := Nat.succ.inj hlen.symm
    simp [hthree]
  · next hs =>
    have hthree : raw.toList.count '/' ≠ 3 := fun h => by
      rw [h] at hlen
      exact hs _ _ _ _ (List.eq_getElem_of_length_eq_four _ hlen)
    simp [hlen, hthree, eq_comm]

/-- A text has three slashes if it has four fields. -/
theorem slashes_eq_three_iff (raw : String) :
    slashes raw = 3 ↔ ∃ p : Parts, p.SlashFree ∧ p.text = raw := by
  cases hp : parts raw with
  | ok p =>
    have hthree : slashes raw = 3 := Decidable.byContradiction fun h => by
      rw [(parts_eq_error_iff raw _).mpr ⟨h, rfl⟩] at hp
      cases hp
    exact iff_of_true hthree ⟨p, (parts_eq_ok_iff raw p).mp hp⟩
  | error n =>
    refine iff_of_false ((parts_eq_error_iff raw n).mp hp).1 fun ⟨p, h⟩ => ?_
    rw [(parts_eq_ok_iff raw p).mpr h] at hp
    cases hp

/-! ### What directives mean -/

/-- What a directive means under some semantics, where `selecting` allows ranges. -/
inductive Denotes (selecting : Bool) (semantics : FlagSemantics) :
    String → Except EditError Substitution → Prop
  /-- Four fields spell a substitution, of which case matters unless flags are executed and the
  last field is `gi`. -/
  | substitution {p : Parts} {flag : SubstitutionFlag} {pattern : Regex} : p.SlashFree →
      flag.Means p.flag →
      Regex.compilePattern p.pattern (semantics == .sed && p.flag == "gi") = .ok pattern →
      Denotes selecting semantics p.text
        (.ok ⟨p.command, pattern, p.replacement, flag, p.flag, none, semantics⟩)
  /-- The second field may not compile. -/
  | pattern {p : Parts} {e : Regex.PatternError} : p.SlashFree →
      Regex.compilePattern p.pattern (semantics == .sed && p.flag == "gi") = .error e →
      Denotes selecting semantics p.text (.error (.pattern e))
  /-- Any other number of fields is an error where ranges are not allowed. -/
  | fieldCount {text : String} : selecting = false → slashes text ≠ 3 →
      Denotes selecting semantics text (.error (.directive (.fieldCount text (slashes text + 1))))
  /-- Where they are, a range means to print its lines as they are, -/
  | range {text : String} {range : LineRange} {pattern : Regex} : selecting = true →
      slashes text ≠ 3 → LineRange.parse text = .ok range →
      Regex.compilePattern "" false = .ok pattern →
      Denotes selecting semantics text
        (.ok ⟨"s", pattern, "", .print, "g", some range, semantics⟩)
  /-- and a text that is no range is an error. -/
  | noRange {text : String} {reason : RangeError} : selecting = true → slashes text ≠ 3 →
      LineRange.parse text = .error reason →
      Denotes selecting semantics text (.error (.directive (.range text reason)))

/-- The pattern of a range is empty and compiles. -/
theorem compilePattern_empty : ∃ pattern, Regex.compilePattern "" false = .ok pattern :=
  ⟨_, rfl⟩

theorem ignoresCase_ofToken (semantics : FlagSemantics) (token : String) :
    semantics.ignoresCase (SubstitutionFlag.ofToken token) =
      (semantics == .sed && token == "gi") := by
  have htoken : (SubstitutionFlag.ofToken token == .globalIgnoreCase) = (token == "gi") := by
    rw [Bool.eq_iff_iff, beq_iff_eq, beq_iff_eq]
    unfold SubstitutionFlag.ofToken
    split <;> simp_all
  rw [FlagSemantics.ignoresCase, htoken]

theorem caseful_g (semantics : FlagSemantics) : (semantics == .sed && "g" == "gi") = false := by
  cases semantics <;> decide

theorem build_of_ok {semantics : FlagSemantics} {p : Parts} {pattern : Regex}
    (h : Regex.compilePattern p.pattern (semantics == .sed && p.flag == "gi") = .ok pattern)
    (range : Option LineRange) : build semantics p range =
      .ok ⟨p.command, pattern, p.replacement, .ofToken p.flag, p.flag, range, semantics⟩ := by
  simp only [build, ignoresCase_ofToken, h]

theorem build_of_error {semantics : FlagSemantics} {p : Parts} {e : Regex.PatternError}
    (h : Regex.compilePattern p.pattern (semantics == .sed && p.flag == "gi") = .error e)
    (range : Option LineRange) : build semantics p range = .error (.pattern e) := by
  simp only [build, ignoresCase_ofToken, h]

theorem build_passThrough {pattern : Regex} (h : Regex.compilePattern "" false = .ok pattern)
    (semantics : FlagSemantics) (range : LineRange) : build semantics passThrough (some range) =
      .ok ⟨"s", pattern, "", .global, "g", some range, semantics⟩ := by
  refine build_of_ok (p := passThrough) ?_ _
  rw [show passThrough.flag = "g" from rfl, caseful_g]
  exact h

/-- A text means what parsing it gives, -/
theorem denotes_parse (selecting : Bool) (semantics : FlagSemantics) (raw : String) :
    Denotes selecting semantics (expand raw) (parse selecting semantics raw) := by
  unfold parse classify
  generalize expand raw = text
  cases hp : parts text with
  | ok p =>
    obtain ⟨hfree, rfl⟩ := (parts_eq_ok_iff _ _).mp hp
    simp only
    cases hc : Regex.compilePattern p.pattern (semantics == .sed && p.flag == "gi") with
    | error e =>
      rw [build_of_error hc]
      exact .pattern hfree hc
    | ok pattern =>
      rw [build_of_ok hc]
      exact .substitution hfree ((SubstitutionFlag.means_iff _ _).mpr rfl) hc
  | error n =>
    obtain ⟨hslashes, rfl⟩ := (parts_eq_error_iff _ _).mp hp
    cases selecting with
    | false => exact .fieldCount rfl hslashes
    | true =>
      cases hr : LineRange.parse text with
      | error reason => exact .noRange rfl hslashes hr
      | ok range =>
        obtain ⟨pattern, hc⟩ := compilePattern_empty
        simp only [↓reduceIte, build_passThrough hc]
        exact .range rfl hslashes hr hc

/-- and nothing else. -/
theorem parse_of_denotes {selecting : Bool} {semantics : FlagSemantics} {raw : String}
    {result : Except EditError Substitution}
    (h : Denotes selecting semantics (expand raw) result) :
    parse selecting semantics raw = result := by
  unfold parse classify
  generalize expand raw = text at h
  cases h with
  | substitution hfree hflag hc =>
    rw [(parts_eq_ok_iff _ _).mpr ⟨hfree, rfl⟩]
    simp only [build_of_ok hc, (SubstitutionFlag.means_iff _ _).mp hflag]
  | pattern hfree hc =>
    rw [(parts_eq_ok_iff _ _).mpr ⟨hfree, rfl⟩]
    simp only [build_of_error hc]
  | fieldCount hs hn => simp [(parts_eq_error_iff _ _).mpr ⟨hn, rfl⟩, hs]
  | range hs hn hr hc => simp [(parts_eq_error_iff _ _).mpr ⟨hn, rfl⟩, hs, hr, build_passThrough hc]
  | noRange hs hn hr => simp [(parts_eq_error_iff _ _).mpr ⟨hn, rfl⟩, hs, hr]

/-- A substitution keeps the semantics and its flag's case setting, and it spells the text it was
denoted by unless that is a range. -/
theorem Denotes.of_ok {selecting : Bool} {semantics : FlagSemantics} {text : String}
    {s : Substitution} (h : Denotes selecting semantics text (.ok s)) :
    s.semantics = semantics ∧ s.pattern.ignoreCase = (semantics == .sed && s.flagToken == "gi") ∧
      (s.range = none →
        Parts.text ⟨s.command, s.pattern.pattern, s.replacement, s.flagToken⟩ = text) := by
  cases h with
  | substitution hfree hflag hc =>
    obtain ⟨hpattern, hcase⟩ := Regex.pattern_of_compilePattern hc
    refine ⟨rfl, hcase, fun _ => ?_⟩
    rw [hpattern]
  | range hs hn hr hc =>
    obtain ⟨-, hcase⟩ := Regex.pattern_of_compilePattern hc
    exact ⟨rfl, hcase.trans (caseful_g semantics).symm, nofun⟩

/-- A pattern that does not compile is the second field. -/
theorem Denotes.of_error {selecting : Bool} {semantics : FlagSemantics} {text : String}
    {e : Regex.PatternError} (h : Denotes selecting semantics text (.error (.pattern e))) :
    ∃ p : Parts, p.SlashFree ∧ p.text = text ∧ p.pattern = e.pattern := by
  cases h with
  | pattern hfree hc => exact ⟨_, hfree, rfl, (Regex.pattern_of_error hc).symm⟩

/-- **Directives are parsed as their language has it**, with `G` written out. Every text has the
outcome that it denotes and no other. A substitution without a range spells the text again, and a
pattern that does not compile is the second field. -/
theorem parse_eq_iff (selecting : Bool) (semantics : FlagSemantics) (raw : String) :
    let text := if raw = "G" then "s/\n/\n\n/g" else raw
    let outcome := parse selecting semantics raw
    (∀ result, outcome = result ↔ Denotes selecting semantics text result) ∧
      (slashes text = 3 ↔ ∃ p : Parts, p.SlashFree ∧ p.text = text) ∧
      (∀ s, outcome = .ok s → s.semantics = semantics ∧
        s.pattern.ignoreCase = (semantics == .sed && s.flagToken == "gi") ∧
        (s.range = none →
          Parts.text ⟨s.command, s.pattern.pattern, s.replacement, s.flagToken⟩ = text)) ∧
      ∀ e, outcome = .error (.pattern e) →
        ∃ p : Parts, p.SlashFree ∧ p.text = text ∧ p.pattern = e.pattern := by
  intro text outcome
  have hexpand : expand raw = text := by
    unfold expand
    by_cases h : raw = "G" <;> simp [text, h, doubleSpace]
  have hden : Denotes selecting semantics text outcome := hexpand ▸ denotes_parse _ _ raw
  refine ⟨fun result => ⟨fun h => h ▸ hden, fun h => parse_of_denotes (hexpand ▸ h)⟩,
    slashes_eq_three_iff text, fun s hs => ?_, fun e he => ?_⟩
  · rw [hs] at hden
    exact hden.of_ok
  · rw [he] at hden
    exact hden.of_error

end Directive
end StreamEditor
