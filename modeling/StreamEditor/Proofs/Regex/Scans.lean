/-
# The scans for a quantifier and for an escape sequence

The scan for a quantifier finds the first place of a pattern that looks as if there were nothing to
repeat, by the character there and the one before it. The scan for an escape sequence takes a
backslash together with the character behind it, and finds the first such pair that is not known.

Key definitions: `Regex.LooksMissing`, `Regex.waiting`, `Regex.LooksUnknown`.
Key theorems: `Regex.invalidQuantifier?_eq_some_iff`, `Regex.invalidEscape?_eq_some_iff`.
-/
import StreamEditor.Regex.Diagnosis

namespace StreamEditor
namespace Regex

/-- The first place in a range where something holds. -/
theorem find?_range_iff {p : Nat → Prop} [DecidablePred p] {n i : Nat} (hbound : p i → i < n) :
    ((List.range n).find? fun j => decide (p j)) = some i ↔ p i ∧ ∀ j < i, ¬ p j := by
  rw [List.find?_range_eq_some]
  simp only [decide_eq_true_eq, List.mem_range, Bool.not_eq_true', decide_eq_false_iff_not]
  exact ⟨fun ⟨hhere, _, hbefore⟩ => ⟨hhere, hbefore⟩,
    fun ⟨hhere, hbefore⟩ => ⟨hhere, hbound hhere, hbefore⟩⟩

/-! ### Quantifiers -/

/-- Whether a text leaves nothing to repeat, as far as its last character tells. -/
def EndsBare (text : List Char) : Prop :=
  text.getLast? ∈ [none, some '(', some '|']

/-- Whether an operator of repetition stands at a place, and nothing, a parenthesis or a bar right
before it. -/
def LooksMissing (pattern : List Char) (i : Nat) : Prop :=
  pattern[i]? ∈ [some '*', some '+', some '?'] ∧ EndsBare (pattern.take i)

instance (text : List Char) : Decidable (EndsBare text) :=
  inferInstanceAs (Decidable (_ ∈ _))

instance (pattern : List Char) (i : Nat) : Decidable (LooksMissing pattern i) :=
  inferInstanceAs (Decidable (_ ∧ _))

/-- Whether no place before a given one looks as if there were nothing to repeat. -/
def SeemsRepeated (pattern : List Char) (n : Nat) : Prop :=
  ∀ i < n, ¬ LooksMissing pattern i

instance (pattern : List Char) (n : Nat) : Decidable (SeemsRepeated pattern n) :=
  inferInstanceAs (Decidable (∀ i < n, ¬ LooksMissing pattern i))

theorem SeemsRepeated.mono {pattern : List Char} {m n : Nat} (h : SeemsRepeated pattern n)
    (hle : m ≤ n) : SeemsRepeated pattern m :=
  fun i hi => h i (Nat.lt_of_lt_of_le hi hle)

theorem endsBare_concat {text : List Char} {c : Char} :
    EndsBare (text ++ [c]) ↔ c = '(' ∨ c = '|' := by
  simp [EndsBare]

/-- The scan goes by the text before it only in what it looks for. -/
theorem scanQuantifiers_eq (before rest : List Char) :
    scanQuantifiers before.getLast? before.length rest =
      (List.range' before.length rest.length).find? fun i =>
        decide (LooksMissing (before ++ rest) i) := by
  -- what has been read grows by the character that is passed
  induction rest generalizing before with
  | nil => rfl
  | cons c cs ih =>
    have hhere : LooksMissing (before ++ c :: cs) before.length ↔
        (c = '*' ∨ c = '+' ∨ c = '?') ∧
          (before.getLast? = none ∨ before.getLast? = some '(' ∨ before.getLast? = some '|') := by
      simp [LooksMissing, EndsBare]
    have hbehind := ih (before ++ [c])
    rw [List.getLast?_concat, List.length_append, List.length_singleton, List.append_assoc,
      List.singleton_append] at hbehind
    rw [List.length_cons, List.range'_succ]
    unfold scanQuantifiers
    dsimp only
    split
    · rename_i hmissing
      rw [List.find?_cons_of_pos]
      rw [decide_eq_true_iff, hhere]
      simpa [or_assoc] using hmissing
    · rename_i hmissing
      rw [List.find?_cons_of_neg, hbehind]
      rw [decide_eq_true_iff, hhere]
      simpa [or_assoc] using hmissing

theorem invalidQuantifier?_eq (pattern : List Char) :
    invalidQuantifier? pattern =
      (List.range pattern.length).find? fun i => decide (LooksMissing pattern i) := by
  rw [List.range_eq_range']
  exact scanQuantifiers_eq [] pattern

theorem LooksMissing.lt_length {pattern : List Char} {i : Nat} (h : LooksMissing pattern i) :
    i < pattern.length := by
  refine Nat.lt_of_not_le fun hle => ?_
  have hoperator := h.1
  rw [List.getElem?_eq_none hle] at hoperator
  exact absurd hoperator (by decide)

/-- **The scan finds the first place that looks as if there were nothing to repeat.** -/
theorem invalidQuantifier?_eq_some_iff {pattern : List Char} {i : Nat} :
    invalidQuantifier? pattern = some i ↔ LooksMissing pattern i ∧ SeemsRepeated pattern i := by
  rw [invalidQuantifier?_eq, find?_range_iff LooksMissing.lt_length]
  rfl

/-! ### Escape sequences -/

/-- Whether a text ends in a backslash that takes the next character with it. -/
def waiting (text : List Char) : Bool :=
  text.foldl (fun waiting c => !waiting && c == '\\') false

@[simp] theorem waiting_nil : waiting [] = false := rfl

theorem waiting_concat (text : List Char) (c : Char) :
    waiting (text ++ [c]) = (!waiting text && c == '\\') := by
  rw [waiting, List.foldl_append]
  rfl

theorem waiting_concat_of_ne {c : Char} (hc : c ≠ '\\') (text : List Char) :
    waiting (text ++ [c]) = false := by
  rw [waiting_concat, beq_false_of_ne hc, Bool.and_false]

theorem waiting_escape {text : List Char} (h : waiting text = false) (c : Char) :
    waiting (text ++ ['\\'] ++ [c]) = false := by
  rw [waiting_concat, waiting_concat, h]
  rfl

/-- Whether an escape sequence begins at a place that is not known, where no backslash before takes
its backslash with it. -/
def LooksUnknown (pattern : List Char) (i : Nat) : Prop :=
  waiting (pattern.take i) = false ∧ pattern[i]? = some '\\' ∧
    pattern[i + 1]?.any (fun c => !isKnownEscape c) = true

instance (pattern : List Char) (i : Nat) : Decidable (LooksUnknown pattern i) :=
  inferInstanceAs (Decidable (_ ∧ _ ∧ _))

/-- Whether no escape sequence before a place looks unknown. -/
def SeemsKnown (pattern : List Char) (n : Nat) : Prop :=
  ∀ i < n, ¬ LooksUnknown pattern i

instance (pattern : List Char) (n : Nat) : Decidable (SeemsKnown pattern n) :=
  inferInstanceAs (Decidable (∀ i < n, ¬ LooksUnknown pattern i))

/-- The text of a pattern between two places. -/
def excerpt (pattern : List Char) (start stop : Nat) : String :=
  String.ofList ((pattern.take stop).drop start)

theorem LooksUnknown.lt_length {pattern : List Char} {i : Nat} (h : LooksUnknown pattern i) :
    i < pattern.length :=
  (List.getElem?_eq_some_iff.mp h.2.1).1

section places

variable {before : List Char} (hbefore : waiting before = false)
include hbefore

theorem looksUnknown_length (c : Char) (cs : List Char) :
    LooksUnknown (before ++ '\\' :: c :: cs) before.length ↔ isKnownEscape c = false := by
  simp [LooksUnknown, hbefore]

/-- The backslash takes the next character with it. -/
theorem not_looksUnknown_behind (cs : List Char) :
    ¬ LooksUnknown (before ++ '\\' :: cs) (before.length + 1) := by
  rintro ⟨hwaiting, -⟩
  rw [← List.singleton_append, ← List.append_assoc, List.take_left' (by simp), waiting_concat,
    hbefore] at hwaiting
  cases hwaiting

end places

/-- The scan goes by the text before it only in that it ends between two characters that are not
taken together. -/
theorem invalidEscape?_eq_find? {before : List Char} (hbefore : waiting before = false)
    (rest : List Char) :
    invalidEscape? rest =
      ((List.range' before.length rest.length).find? fun i =>
        decide (LooksUnknown (before ++ rest) i)).map fun i =>
          excerpt (before ++ rest) i (i + 2) := by
  fun_induction invalidEscape? rest generalizing before with
  | case1 => rfl
  | case2 =>
    -- a backslash at the end takes nothing with it
    have hhere : ¬ LooksUnknown (before ++ ['\\']) before.length := by simp [LooksUnknown]
    rw [List.length_singleton, List.range'_succ, List.find?_cons_of_neg (by simpa using hhere)]
    rfl
  | case3 c cs hknown ih =>
    have hhere := mt (looksUnknown_length hbefore c cs).mp (ne_false_of_eq_true hknown)
    have hnext := not_looksUnknown_behind hbefore (c :: cs)
    have hbehind := ih (waiting_escape hbefore c)
    simp only [List.append_assoc, List.singleton_append, List.length_append] at hbehind
    rw [List.length_cons, List.length_cons, List.range'_succ, List.range'_succ,
      List.find?_cons_of_neg (by simpa using hhere), List.find?_cons_of_neg (by simpa using hnext)]
    exact hbehind
  | case4 c cs hunknown =>
    have hhere := (looksUnknown_length hbefore c cs).mpr (eq_false_of_ne_true hunknown)
    rw [List.length_cons, List.range'_succ, List.find?_cons_of_pos (by simpa using hhere)]
    simp [excerpt, List.take_append]
  | case5 c cs hlast hescape ih =>
    have hc : c ≠ '\\' := by
      rintro rfl
      cases cs with
      | nil => exact hlast rfl rfl
      | cons ch cs => exact hescape ch cs rfl rfl
    have hhere : ¬ LooksUnknown (before ++ c :: cs) before.length := by simp [LooksUnknown, hc]
    have hbehind := ih (waiting_concat_of_ne hc before)
    simp only [List.append_assoc, List.singleton_append, List.length_append,
      List.length_singleton] at hbehind
    rw [List.length_cons, List.range'_succ, List.find?_cons_of_neg (by simpa using hhere)]
    exact hbehind

/-- **The scan finds the first escape sequence that looks unknown.** -/
theorem invalidEscape?_eq_some_iff {pattern : List Char} {sequence : String} :
    invalidEscape? pattern = some sequence ↔
      ∃ i, LooksUnknown pattern i ∧ SeemsKnown pattern i ∧
        sequence = excerpt pattern i (i + 2) := by
  rw [invalidEscape?_eq_find? waiting_nil pattern, Option.map_eq_some_iff]
  refine exists_congr fun i => ?_
  rw [List.nil_append, List.length_nil, ← List.range_eq_range',
    find?_range_iff LooksUnknown.lt_length, and_assoc, eq_comm (a := sequence)]
  rfl

end Regex
end StreamEditor
