/-
# How far a diagnosis goes by the fault

A diagnosis tells the first kind of fault, in a fixed order, that the text of the fault names and
the pattern shows. The text quotes the pattern, so a kind is named also by words of the pattern that
have nothing to do with the fault. A diagnosis is about the fault itself just if every kind that
only the pattern names comes after one that is told before it (`compilePattern_kind`).

Key definitions: `Regex.Diagnosis.kind?`, `Regex.Kind.Found`, `Regex.Fault.Concerns`,
`Regex.SyntaxError.Tells`.
Key theorem: `Regex.compilePattern_kind`.
-/
import StreamEditor.Proofs.Regex.Wording
import StreamEditor.Regex.Basic

namespace StreamEditor
namespace Regex

/-- The kind of fault that a diagnosis tells of. -/
def Diagnosis.kind? : Diagnosis → Option Kind
  | .unclosedDelimiter delimiter _ => if delimiter = '(' then some .group else some .bracket
  | .invalidQuantifier _ _ => some .repetition
  | .invalidEscape _ => some .escape
  | .unsupported _ => some .unsupported
  | .tooBig => none
  | .malformed _ => none

/-- Whether a pattern shows what there is to tell about a kind of fault: where the delimiter is that
is never closed, or which escape sequence is not known. About the other kinds there is always
something to tell. -/
def Kind.Found (pattern : List Char) : Kind → Prop
  | .group => (unclosedDelimiter? pattern '(' ')').isSome
  | .bracket => (unclosedDelimiter? pattern '[' ']').isSome
  | .unsupported => True
  | .repetition => True
  | .escape => (invalidEscape? pattern).isSome

instance (pattern : List Char) : (k : Kind) → Decidable (k.Found pattern)
  | .group => inferInstanceAs (Decidable ((unclosedDelimiter? pattern '(' ')').isSome = true))
  | .bracket => inferInstanceAs (Decidable ((unclosedDelimiter? pattern '[' ']').isSome = true))
  | .unsupported => inferInstanceAs (Decidable True)
  | .repetition => inferInstanceAs (Decidable True)
  | .escape => inferInstanceAs (Decidable ((invalidEscape? pattern).isSome = true))

/-- The kinds that are looked for before a kind. -/
def Kind.earlier : Kind → List Kind
  | .group => []
  | .bracket => [.group]
  | .unsupported => [.group, .bracket]
  | .repetition => [.group, .bracket, .unsupported]
  | .escape => [.group, .bracket, .unsupported, .repetition]

/-- Whether a fault is of a kind, also where the sentence about it does not say so: what is wrong
with a count is wrong with the repetition, and what is wrong with the digits of a code is wrong with
the escape sequence. -/
def Fault.Concerns (f : Fault) (k : Kind) : Prop :=
  f.kind? = some k ∨ (f, k) ∈ [(decimalInvalid, .repetition), (escapeHexEmpty, .escape),
    (escapeHexInvalid, .escape), (escapeHexInvalidDigit, .escape)]

instance (f : Fault) (k : Kind) : Decidable (f.Concerns k) :=
  inferInstanceAs (Decidable (_ ∨ _))

/-! ### The kind told -/

namespace Kind

theorem earlier_or (j k : Kind) : j = k ∨ j ∈ k.earlier ∨ k ∈ j.earlier := by
  cases j <;> cases k <;> decide

theorem holdsWords_lowered_iff {k : Kind} {words : String} (hwords : k.words = [words])
    (text : List Char) : holdsWords words.toList (text.map lowered) = true ↔ k.Named text := by
  rw [holdsWords_iff, Named, hwords]
  simp only [List.mem_singleton, exists_eq_left]
  exact Iff.rfl

theorem holdsWords_lowered_or_iff {k : Kind} {words others : String}
    (hwords : k.words = [words, others]) (text : List Char) :
    (holdsWords words.toList (text.map lowered) ||
      holdsWords others.toList (text.map lowered)) = true ↔ k.Named text := by
  rw [Bool.or_eq_true, holdsWords_iff, holdsWords_iff, Named, hwords]
  simp only [List.mem_cons, List.not_mem_nil, or_false, exists_eq_or_imp, exists_eq_left]
  exact Iff.rfl

end Kind

namespace SyntaxError

/-- A kind of fault is a candidate if the pattern or the sentence about the fault names it, and the
pattern shows what there is to tell about it. -/
def Candidate (e : SyntaxError) (pattern : List Char) (k : Kind) : Prop :=
  (k.Named pattern ∨ e.fault.kind? = some k) ∧ k.Found pattern

instance (e : SyntaxError) (pattern : List Char) (k : Kind) : Decidable (e.Candidate pattern k) :=
  inferInstanceAs (Decidable ((_ ∨ _) ∧ _))

/-- The candidate that no other comes before. -/
def Tells (e : SyntaxError) (pattern : List Char) (k : Kind) : Prop :=
  e.Candidate pattern k ∧ ∀ j ∈ k.earlier, ¬ e.Candidate pattern j

variable {e : SyntaxError} {pattern : List Char}

theorem candidate_iff {k : Kind} :
    e.Candidate pattern k ↔ k.Named (e.text pattern).toList ∧ k.Found pattern := by
  rw [k.named_text_iff]
  exact Iff.rfl

theorem Tells.eq_iff {j k : Kind} (h : e.Tells pattern j) :
    some j = some k ↔ e.Tells pattern k := by
  constructor
  · intro hjk
    cases hjk
    exact h
  · intro hk
    rcases Kind.earlier_or j k with rfl | hj | hk'
    · rfl
    · exact absurd h.1 (hk.2 j hj)
    · exact absurd hk.1 (h.2 k hk')

/-- What is looked for when the text names a kind is found just if the kind is a candidate. -/
theorem isSome_found_iff {α : Type} {k : Kind} {told : Bool} (found : Option α)
    (htold : told = true ↔ k.Named (e.text pattern).toList)
    (hfound : found.isSome = true ↔ k.Found pattern) :
    (if told then found else none).isSome = true ↔ e.Candidate pattern k := by
  rw [candidate_iff, ← htold, ← hfound]
  cases told <;> simp

/-- A kind about which there is always something to tell is a candidate if the text names it. -/
theorem isTold_iff {k : Kind} {told : Bool} (htold : told = true ↔ k.Named (e.text pattern).toList)
    (hfound : k.Found pattern) : told = true ↔ e.Candidate pattern k := by
  rw [candidate_iff, htold, and_iff_left hfound]

/-- **A diagnosis tells the first candidate,** if there is any. -/
theorem kind?_diagnosis_iff (e : SyntaxError) (pattern : List Char) (k : Kind) :
    (e.diagnosis pattern).kind? = some k ↔ e.Tells pattern k := by
  have hnamed (k : Kind) (words : String) (hwords : k.words = [words]) :=
    Kind.holdsWords_lowered_iff hwords (e.text pattern).toList
  have hgroup := isSome_found_iff (unclosedDelimiter? pattern '(' ')')
    (hnamed .group _ rfl) Iff.rfl
  have hbracket := isSome_found_iff (unclosedDelimiter? pattern '[' ']')
    (hnamed .bracket _ rfl) Iff.rfl
  have hunsupported : _ ↔ e.Candidate pattern .unsupported :=
    isTold_iff (Kind.holdsWords_lowered_or_iff rfl _) trivial
  have hrepetition := isTold_iff (hnamed .repetition _ rfl) trivial
  have hescape := isSome_found_iff (invalidEscape? pattern) (hnamed .escape _ rfl) Iff.rfl
  unfold diagnosis
  dsimp only
  split
  · rename_i position _ hfound
    rw [hfound] at hgroup
    have htells : e.Tells pattern .group := ⟨hgroup.mp rfl, by simp [Kind.earlier]⟩
    exact htells.eq_iff
  · rename_i position hnone hfound
    rw [hnone] at hgroup
    rw [hfound] at hbracket
    have htells : e.Tells pattern .bracket :=
      ⟨hbracket.mp rfl, by simpa [Kind.earlier] using hgroup⟩
    exact htells.eq_iff
  rename_i hgroupNone hbracketNone
  rw [hgroupNone] at hgroup
  rw [hbracketNone] at hbracket
  have hnotGroup : ¬ e.Candidate pattern .group := fun h => Bool.noConfusion (hgroup.mpr h)
  have hnotBracket : ¬ e.Candidate pattern .bracket := fun h => Bool.noConfusion (hbracket.mpr h)
  split
  · rename_i htold
    have htells : e.Tells pattern .unsupported :=
      ⟨hunsupported.mp htold, by simp [Kind.earlier, hnotGroup, hnotBracket]⟩
    exact htells.eq_iff
  rename_i htold
  have hnotUnsupported := mt hunsupported.mpr htold
  split
  · rename_i htold
    have htells : e.Tells pattern .repetition :=
      ⟨hrepetition.mp htold, by simp [Kind.earlier, hnotGroup, hnotBracket, hnotUnsupported]⟩
    exact htells.eq_iff
  rename_i htold
  have hnotRepetition := mt hrepetition.mpr htold
  split
  · rename_i sequence hfound
    rw [hfound] at hescape
    have htells : e.Tells pattern .escape := ⟨hescape.mp rfl, by
      simp [Kind.earlier, hnotGroup, hnotBracket, hnotUnsupported, hnotRepetition]⟩
    exact htells.eq_iff
  · rename_i hescapeNone
    rw [hescapeNone] at hescape
    have hnotEscape : ¬ e.Candidate pattern .escape :=
      fun h => Bool.noConfusion (hescape.mpr h)
    refine iff_of_false (by simp [Diagnosis.kind?]) fun htells => ?_
    cases k with
    | group => exact hnotGroup htells.1
    | bracket => exact hnotBracket htells.1
    | unsupported => exact hnotUnsupported htells.1
    | repetition => exact hnotRepetition htells.1
    | escape => exact hnotEscape htells.1

/-- The kind told is that of the fault unless the pattern names another kind that it shows, and no
candidate comes before this one. -/
theorem tells_concerns_iff (e : SyntaxError) (pattern : List Char) :
    (∀ k, e.Tells pattern k → e.fault.Concerns k) ↔
      ∀ k : Kind, k.Named pattern → k.Found pattern → ¬ e.fault.Concerns k →
        ∃ j ∈ k.earlier, e.Candidate pattern j := by
  constructor
  · intro hright k hnamed hfound hother
    refine Classical.byContradiction fun hfirst => hother (hright k ⟨⟨.inl hnamed, hfound⟩, ?_⟩)
    exact fun j hj hcandidate => hfirst ⟨j, hj, hcandidate⟩
  · rintro hearlier k ⟨⟨hnamed | hfault, hfound⟩, hfirst⟩
    · refine Classical.byContradiction fun hother => ?_
      obtain ⟨j, hj, hcandidate⟩ := hearlier k hnamed hfound hother
      exact hfirst j hj hcandidate
    · exact .inl hfault

/-- The place told of an unclosed group is the one that the scan finds. -/
theorem diagnosis_group {position : Nat} (hnamed : Kind.Named .group (e.text pattern).toList)
    (hscan : unclosedDelimiter? pattern '(' ')' = some position) :
    e.diagnosis pattern = .unclosedDelimiter '(' position := by
  have htold := (Kind.holdsWords_lowered_iff (k := .group) rfl _).mpr hnamed
  unfold diagnosis
  dsimp only
  rw [if_pos htold, hscan]

/-- So is the place of an unclosed class, if no unclosed group is told. -/
theorem diagnosis_bracket {position : Nat} (hgroup : ¬ e.Candidate pattern .group)
    (hnamed : Kind.Named .bracket (e.text pattern).toList)
    (hscan : unclosedDelimiter? pattern '[' ']' = some position) :
    e.diagnosis pattern = .unclosedDelimiter '[' position := by
  have htold := (Kind.holdsWords_lowered_iff (k := .bracket) rfl _).mpr hnamed
  have hnone := mt (isSome_found_iff (unclosedDelimiter? pattern '(' ')')
    (Kind.holdsWords_lowered_iff (k := .group) rfl _) Iff.rfl).mp hgroup
  unfold diagnosis
  dsimp only
  rw [if_pos htold, hscan, Option.not_isSome_iff_eq_none.mp hnone]

theorem diagnosis_ne_tooBig (e : SyntaxError) (pattern : List Char) :
    e.diagnosis pattern ≠ .tooBig := by
  unfold diagnosis
  dsimp only
  repeat' split
  all_goals exact Diagnosis.noConfusion

end SyntaxError

/-! ### Patterns that do not compile -/

/-- A pattern does not compile if it has a fault, or if what it means weighs too much. -/
theorem cause_of_error {pattern : String} {ignoreCase : Bool} {e : PatternError}
    (h : compilePattern pattern ignoreCase = .error e) : e.pattern = pattern ∧
      match analyse pattern.toList ignoreCase with
      | .error fault => e.cause = .malformed fault
      | .ok (expr, _) => e.cause = .tooBig ∧ sizeLimit < expr.weight := by
  unfold compilePattern compile at h
  cases ha : analyse pattern.toList ignoreCase with
  | error fault =>
    rw [ha] at h
    cases h
    exact ⟨rfl, rfl⟩
  | ok meant =>
    obtain ⟨expr, names⟩ := meant
    rw [ha] at h
    dsimp only at h ⊢
    split at h
    · rename_i hok
      split at hok
      · cases h
      · cases hok
    · rename_i hcause
      split at hcause
      · cases hcause
      · rename_i hweight
        cases hcause
        cases h
        exact ⟨rfl, rfl, Nat.lt_of_not_le hweight⟩

/-- **What kind of fault is told of a pattern.** That a pattern is too big is told just if its size
passes the limit. Of a fault, the first kind is told that the pattern or the sentence about the
fault names and the pattern shows. So the kind told is that of the fault unless the pattern itself
names another kind that it shows and that no candidate comes before. -/
theorem compilePattern_kind {pattern : String} {ignoreCase : Bool} {e : PatternError}
    (h : compilePattern pattern ignoreCase = .error e) :
    (e.diagnosis = .tooBig ↔ ∃ expr names,
      analyse pattern.toList ignoreCase = .ok (expr, names) ∧ sizeLimit < expr.weight) ∧
    ∀ fault, analyse pattern.toList ignoreCase = .error fault →
      (∀ k, e.diagnosis.kind? = some k ↔ fault.Tells pattern.toList k) ∧
      ((∀ k, e.diagnosis.kind? = some k → fault.fault.Concerns k) ↔
        ∀ k : Kind, k.Named pattern.toList → k.Found pattern.toList → ¬ fault.fault.Concerns k →
          ∃ j ∈ k.earlier, fault.Candidate pattern.toList j) := by
  obtain ⟨hpattern, hcause⟩ := cause_of_error h
  constructor
  · cases ha : analyse pattern.toList ignoreCase with
    | ok meant =>
      rw [ha] at hcause
      exact iff_of_true (by rw [PatternError.diagnosis, hcause.1]) ⟨_, _, rfl, hcause.2⟩
    | error fault =>
      rw [ha] at hcause
      refine iff_of_false ?_ (by simp)
      rw [PatternError.diagnosis, hcause]
      exact fault.diagnosis_ne_tooBig _
  · intro fault ha
    rw [ha] at hcause
    have htells : ∀ k, e.diagnosis.kind? = some k ↔ fault.Tells pattern.toList k := by
      intro k
      rw [PatternError.diagnosis, hcause, hpattern]
      exact fault.kind?_diagnosis_iff pattern.toList k
    refine ⟨htells, ?_⟩
    simp only [htells]
    exact fault.tells_concerns_iff pattern.toList

/-- A group is never closed, and the word before it does not hide that. -/
theorem compilePattern_kind_sample :
    let fault : SyntaxError := ⟨.groupUnclosed, ⟨⟨10, 1, 11⟩, ⟨11, 1, 12⟩⟩, none⟩
    let e : PatternError := ⟨"repetition(", .malformed fault⟩
    compilePattern "repetition(" false = .error e ∧
      analyse "repetition(".toList false = .error fault ∧
      Kind.Named .repetition "repetition(".toList ∧ e.diagnosis.kind? = some .group ∧
      ∀ k, e.diagnosis.kind? = some k → fault.fault.Concerns k := by
  intro fault e
  have hfails : compilePattern "repetition(" false = .error e := rfl
  have hfault : analyse "repetition(".toList false = .error fault := by
    rw [String.toList_ofList]
    rfl
  have hgroup : fault.Candidate "repetition(".toList .group := by decide +kernel
  obtain ⟨htells, hright⟩ := (compilePattern_kind hfails).2 fault hfault
  refine ⟨hfails, hfault, by decide +kernel, (htells .group).mpr ⟨hgroup, by simp [Kind.earlier]⟩,
    hright.mpr fun k _ _ hother => ⟨.group, ?_, hgroup⟩⟩
  cases k with
  | group => exact absurd (.inl rfl) hother
  | bracket => decide
  | unsupported => decide
  | repetition => decide
  | escape => decide

/-- Of a group that was never opened a repetition is told, for a word that stands before it. -/
theorem compilePattern_kind_of_word :
    let fault : SyntaxError := ⟨.groupUnopened, ⟨⟨10, 1, 11⟩, ⟨11, 1, 12⟩⟩, none⟩
    let e : PatternError := ⟨"repetition)", .malformed fault⟩
    compilePattern "repetition)" false = .error e ∧
      e.diagnosis = .invalidQuantifier "error: unopened group" none ∧
      ¬ fault.fault.Concerns .repetition := by
  intro fault e
  have hdiagnosis : e.diagnosis = .invalidQuantifier "error: unopened group" none := by
    decide +kernel
  exact ⟨rfl, hdiagnosis, by decide⟩

end Regex
end StreamEditor
