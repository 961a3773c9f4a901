/-
# Ranges and their texts

A range is read back from its text, with and without the letter behind it (`parse_text`). It holds
the lines between its ends (`contains_iff_of_le`). A line past the greatest number of 64 bits counts
as that number, so a range that ends there holds all further lines too (`contains_iff`).

Key theorems: `LineRange.parse_text`, `LineRange.contains_iff`.
-/
import StreamEditor.LineRange
import StreamEditor.Proofs.Text.Fields
import StreamEditor.Proofs.Text.Numeral

namespace StreamEditor
namespace LineRange

/-- A range whose ends are words of 64 bits. -/
structure Fits (r : LineRange) : Prop where
  start : Numeral.Fits r.start
  stop : Numeral.Fits r.stop

/-! ### Texts -/

/-- The letter that may stand behind a range. -/
def letter (written : Bool) : String := if written then "p" else ""

theorem not_mem_toString {n : Int} {c : Char} (hdigit : c.isDigit = false) (hminus : c ≠ '-') :
    c ∉ (toString n).toList := by
  intro hc
  rcases Numeral.mem_toString hc with h | h
  · rw [hdigit] at h
    exact Bool.false_ne_true h
  · exact hminus h

/-- The text of a range holds digits, signs, a comma and the letter alone. -/
theorem not_mem_text {r : LineRange} {written : Bool} {c : Char} (hdigit : c.isDigit = false)
    (hminus : c ≠ '-') (hcomma : c ≠ ',') (hletter : c ≠ 'p') :
    c ∉ (r.text ++ letter written).toList := by
  have hstart : c ∉ (toString r.start).toList := not_mem_toString hdigit hminus
  have hstop : c ∉ (toString r.stop).toList := not_mem_toString hdigit hminus
  have hwritten : c ∉ (letter written).toList := by
    cases written with
    | false => simp [letter]
    | true => simp [letter, hletter]
  simp only [text, String.toList_append, List.mem_append, not_or]
  exact ⟨⟨⟨hstart, by simpa using hcomma⟩, hstop⟩, hwritten⟩

/-- The letter behind a number is dropped, and nothing else. -/
theorem withoutLetter_toString (n : Int) (written : Bool) :
    withoutLetter ((toString n).toList ++ (letter written).toList) = (toString n).toList := by
  unfold withoutLetter
  cases written with
  | true => simp [letter]
  | false =>
    have hlast : (toString n).toList.getLast? ≠ some 'p' := by
      intro h
      exact not_mem_toString (by decide) (by decide) (List.mem_of_getLast? h)
    have hnone : (letter false).toList = [] := rfl
    rw [hnone, List.append_nil, if_neg (mt beq_iff_eq.mp hlast)]

theorem readNumber_toString {n : Int} (h : Numeral.Fits n) :
    readNumber (toString n).toList = .ok n := by
  rw [readNumber, Numeral.read_toString h]

/-- The fields of the text of a range are its ends. -/
theorem split_text (r : LineRange) (written : Bool) :
    Fields.split ',' (r.text ++ letter written).toList =
      [(toString r.start).toList, (toString r.stop).toList ++ (letter written).toList] := by
  have hfree : ∀ n : Int, ',' ∉ (toString n).toList := fun n =>
    not_mem_toString (by decide) (by decide)
  have hletter : ',' ∉ (letter written).toList := by cases written <;> decide
  rw [Fields.split_eq_iff]
  refine ⟨List.cons_ne_nil _ _, ?_, by simp [text, Fields.join]⟩
  intro f hf
  rcases List.mem_cons.mp hf with rfl | hf
  · exact hfree r.start
  · rw [List.mem_singleton.mp hf, List.mem_append, not_or]
    exact ⟨hfree r.stop, hletter⟩

/-- **A range is read back from its text**, with or without the letter behind it. -/
theorem parse_text {r : LineRange} (h : r.Fits) (written : Bool) :
    parse (r.text ++ letter written) = .ok r := by
  rw [parse, split_text]
  simp only [withoutLetter_toString, readNumber_toString h.start, readNumber_toString h.stop]
  rfl

/-! ### Lines -/

/-- **The lines of a range** lie between its ends, where the greatest number that an end can be
counts as no end. -/
theorem contains_iff {r : LineRange} (h : r.Fits) (i : Nat) :
    r.contains i = true ↔ r.start ≤ i ∧ (i ≤ r.stop ∨ r.stop = Numeral.greatest) := by
  have hstart := h.start.le_greatest
  have hstop := h.stop.le_greatest
  unfold contains
  generalize Numeral.greatest = greatest at *
  simp only [Bool.and_eq_true, decide_eq_true_eq]
  omega

/-- Of the lines up to the greatest number, these are the lines between its ends. -/
theorem contains_iff_of_le {r : LineRange} (h : r.Fits) {i : Nat}
    (hi : r.stop = Numeral.greatest → i ≤ Numeral.greatest) :
    r.contains i = true ↔ r.start ≤ i ∧ i ≤ r.stop := by
  rw [contains_iff h]
  constructor
  · rintro ⟨hstart, hstop | hstop⟩
    · exact ⟨hstart, hstop⟩
    · exact ⟨hstart, hstop ▸ hi hstop⟩
  · rintro ⟨hstart, hstop⟩
    exact ⟨hstart, .inl hstop⟩

/-- No line of `n` lies in a range with its ends in the wrong order, or with an end out of their
reach. -/
theorem contains_eq_false {r : LineRange} (h : r.Fits) {i n : Nat} (hfirst : 1 ≤ i) (hlast : i ≤ n)
    (hnone : r.stop < r.start ∨ r.stop < 1 ∨ n < r.start) : r.contains i = false := by
  have hstart := h.start.le_greatest
  have hpositive : 1 ≤ Numeral.greatest := by decide
  rw [Bool.eq_false_iff, ne_eq, contains_iff h]
  rintro ⟨hle, hstop⟩
  rcases hnone with hnone | hnone | hnone <;> omega

end LineRange
end StreamEditor
