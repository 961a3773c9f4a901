/-
# Numbers read back from their decimal text

Reading digits is summing them up, as long as the sum fits a signed word of 64 bits; and since a
digit only takes a sum further from zero, all sums on the way fit if the last one does
(`readDigits_eq`). So a number that fits is read back from its decimal text (`read_toString`), which
holds digits and at most a minus sign (`mem_toString`).

Key definition: `Numeral.Fits`.
Key theorem: `Numeral.read_toString`.
-/
import StreamEditor.Text.Numeral

namespace StreamEditor
namespace Numeral

/-- A number that a signed word of 64 bits holds. -/
structure Fits (n : Int) : Prop where
  least_le : least ≤ n
  le_greatest : n ≤ greatest

theorem fits_toInt (a : Int64) : Fits a.toInt := by
  have hlow := a.le_toInt
  have hhigh := a.toInt_lt
  constructor
  · exact hlow
  · exact Int.le_sub_one_of_lt hhigh

/-- A number up or down from zero. -/
def signed (negative : Bool) (k : Nat) : Int := if negative then -k else k

/-- What is nearer to zero fits too. -/
theorem Fits.of_le {negative : Bool} {k m : Nat} (h : Fits (signed negative m)) (hle : k ≤ m) :
    Fits (signed negative k) := by
  have hleast : least ≤ 0 := by decide
  have hgreatest : 0 ≤ greatest := by decide
  obtain ⟨hlow, hhigh⟩ := h
  unfold signed at *
  cases negative with
  | false =>
    simp only [Bool.false_eq_true, if_false] at *
    constructor <;> omega
  | true =>
    simp only [if_true] at *
    constructor <;> omega

/-! ### Digits -/

theorem isDigit_iff (c : Char) : c.isDigit = true ↔ 48 ≤ c.toNat ∧ c.toNat ≤ 57 := by
  rw [Char.isDigit, Bool.and_eq_true, decide_eq_true_eq, decide_eq_true_eq]
  exact Iff.rfl

/-- A digit takes a sum further from zero. -/
theorem signed_digit {c : Char} (hc : c.isDigit = true) (negative : Bool) (k : Nat) :
    (if negative then signed negative k * 10 - digit c else signed negative k * 10 + digit c) =
      signed negative (10 * k + (c.toNat - '0'.toNat)) := by
  have hrange := (isDigit_iff c).mp hc
  have hzero : '0'.toNat = 48 := rfl
  unfold signed digit
  cases negative <;> simp only [Bool.false_eq_true, if_false, if_true] <;> omega

theorem le_ofDigitChars (cs : List Char) (k : Nat) : k ≤ Nat.ofDigitChars 10 cs k := by
  have hpos : 0 < 10 ^ cs.length := Nat.pow_pos (by decide)
  calc k ≤ 10 ^ cs.length * k := Nat.le_mul_of_pos_left k hpos
    _ ≤ 10 ^ cs.length * k + Nat.ofDigitChars 10 cs 0 := Nat.le_add_right _ _
    _ = Nat.ofDigitChars 10 cs k := Nat.ofDigitChars_eq_ofDigitChars_zero.symm

/-- **Digits are summed up** as far as the sum fits, and reading goes on behind them. -/
theorem readDigits_append (negative : Bool) (rest : List Char) : ∀ (cs : List Char) (k : Nat),
    (∀ c ∈ cs, c.isDigit = true) → Fits (signed negative (Nat.ofDigitChars 10 cs k)) →
    readDigits negative (signed negative k) (cs ++ rest) =
      readDigits negative (signed negative (Nat.ofDigitChars 10 cs k)) rest
  | [], _, _, _ => rfl
  | c :: cs, k, hdigits, hfits => by
    have hc : c.isDigit = true := hdigits c List.mem_cons_self
    rw [Nat.ofDigitChars_cons] at hfits ⊢
    -- the sum behind this digit fits since the last one does
    have hnext : Fits (signed negative (10 * k + (c.toNat - '0'.toNat))) :=
      hfits.of_le (le_ofDigitChars cs _)
    have ih := readDigits_append negative rest cs (10 * k + (c.toNat - '0'.toNat))
      (fun d hd => hdigits d (List.mem_cons_of_mem _ hd)) hfits
    rw [List.cons_append, readDigits, if_pos hc]
    simp only [signed_digit hc]
    rw [if_neg (Int.not_lt.mpr hnext.least_le), if_neg (Int.not_lt.mpr hnext.le_greatest), ih]

/-- Digits whose sum fits are read as their sum. -/
theorem readDigits_eq (negative : Bool) (cs : List Char) (k : Nat)
    (hdigits : ∀ c ∈ cs, c.isDigit = true)
    (hfits : Fits (signed negative (Nat.ofDigitChars 10 cs k))) :
    readDigits negative (signed negative k) cs =
      .ok (signed negative (Nat.ofDigitChars 10 cs k)) := by
  have hread := readDigits_append negative [] cs k hdigits hfits
  rw [List.append_nil] at hread
  exact hread

/-! ### Texts of numbers -/

theorem isDigit_of_mem_repr {n : Nat} {c : Char} (hc : c ∈ n.repr.toList) : c.isDigit = true := by
  rw [Nat.toList_repr] at hc
  exact Nat.isDigit_of_mem_toDigits (by decide) (by decide) hc

/-- The text of a number holds digits and at most a minus sign. -/
theorem mem_toString {n : Int} {c : Char} (hc : c ∈ (toString n).toList) :
    c.isDigit = true ∨ c = '-' := by
  rw [Int.toString_eq_repr, Int.repr_eq_if] at hc
  split at hc
  · exact .inl (isDigit_of_mem_repr hc)
  · rw [String.toList_append, List.mem_append] at hc
    rcases hc with hc | hc
    · exact .inr (List.mem_singleton.mp hc)
    · exact .inl (isDigit_of_mem_repr hc)

/-- Behind a first digit, or behind a minus sign, a numeral is read digit by digit. -/
theorem read_cons {c : Char} (hc : c.isDigit = true) (cs : List Char) :
    read (c :: cs) = readDigits false 0 (c :: cs) := by
  unfold read
  split <;> simp_all [Char.isDigit]

theorem read_minus {cs : List Char} (hne : cs ≠ []) :
    read ('-' :: cs) = readDigits true 0 cs := by
  cases cs with
  | nil => exact absurd rfl hne
  | cons c cs => rfl

/-- The digits of a natural number, read with a sign. -/
theorem readDigits_repr (negative : Bool) {k : Nat} (h : Fits (signed negative k)) :
    readDigits negative 0 k.repr.toList = .ok (signed negative k) := by
  have hsum : Nat.ofDigitChars 10 k.repr.toList 0 = k := by
    rw [Nat.toList_repr, Nat.ofDigitChars_ten_toDigits]
  have hzero : signed negative 0 = 0 := by cases negative <;> rfl
  have hread := readDigits_eq negative k.repr.toList 0 (fun c => isDigit_of_mem_repr)
    (by rw [hsum]; exact h)
  rw [hsum, hzero] at hread
  exact hread

/-- **A number that fits is read back from its text.** -/
theorem read_toString {n : Int} (h : Fits n) : read (toString n).toList = .ok n := by
  rw [Int.toString_eq_repr, Int.repr_eq_if]
  by_cases hn : 0 ≤ n
  · rw [if_pos hn]
    have hsigned : signed false n.toNat = n := Int.toNat_of_nonneg hn
    have hread := readDigits_repr false (k := n.toNat) (by rw [hsigned]; exact h)
    rw [hsigned] at hread
    cases hdigits : n.toNat.repr.toList with
    | nil => simp at hdigits
    | cons c cs =>
      have hc : c.isDigit = true := isDigit_of_mem_repr (by rw [hdigits]; exact List.mem_cons_self)
      rw [read_cons hc, ← hdigits, hread]
  · rw [if_neg hn]
    have hsigned : signed true (-n).toNat = n := by
      have := Int.toNat_of_nonneg (by omega : 0 ≤ -n)
      unfold signed
      simp only [if_true]
      omega
    have hread := readDigits_repr true (k := (-n).toNat) (by rw [hsigned]; exact h)
    rw [hsigned] at hread
    have hne : (-n).toNat.repr.toList ≠ [] := by simp
    rw [String.toList_append, show "-".toList = ['-'] from rfl, List.singleton_append,
      read_minus hne, hread]

end Numeral
end StreamEditor
