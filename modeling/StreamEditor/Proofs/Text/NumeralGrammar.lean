/-
# What a token says as a numeral

A numeral is a sign, which may be left out, and one digit or more, and its value fits a signed word
of 64 bits. Any other token is blamed for the first thing that is wrong with it from the left: a
character that is no digit, or a digit that takes the value out of reach. `Denotes` says so as a
relation, and reading a token gives what the token denotes and nothing else (`read_eq_iff`).

Key definitions: `Numeral.WithSign`, `Numeral.value`, `Numeral.Denotes`.
Key theorem: `Numeral.read_eq_iff`.
-/
import StreamEditor.Proofs.Text.Numeral

namespace StreamEditor
namespace Numeral

/-- A token and what stands behind its sign. -/
inductive WithSign : Bool → List Char → List Char → Prop
  | plus (cs : List Char) : WithSign false cs ('+' :: cs)
  | minus (cs : List Char) : WithSign true cs ('-' :: cs)
  | none {cs : List Char} : cs.head? ≠ some '+' → cs.head? ≠ some '-' → WithSign false cs cs

/-- Digits and nothing else. -/
def Digits (cs : List Char) : Prop := ∀ c ∈ cs, c.isDigit = true

/-- The value of digits behind a sign. -/
def value (negative : Bool) (digits : List Char) : Int :=
  signed negative (Nat.ofDigitChars 10 digits 0)

/-- What a token says: its value, or what is wrong with it. -/
inductive Denotes : List Char → Except Fault Int → Prop
  /-- A numeral has a value that fits. -/
  | value {negative : Bool} {digits token : List Char} : WithSign negative digits token →
      digits ≠ [] → Digits digits → Fits (value negative digits) →
      Denotes token (.ok (value negative digits))
  /-- Nothing is no numeral, -/
  | empty : Denotes [] (.error .empty)
  /-- nor is a sign alone. -/
  | loneSign {negative : Bool} {token : List Char} : WithSign negative [] token → token ≠ [] →
      Denotes token (.error .invalidDigit)
  /-- A character that is no digit is blamed if the digits before it have a value that fits, -/
  | invalidDigit {negative : Bool} {before rest token : List Char} {c : Char} :
      WithSign negative (before ++ c :: rest) token → Digits before →
      Fits (value negative before) → c.isDigit = false → Denotes token (.error .invalidDigit)
  /-- and so is the digit that takes the value out of reach, upwards -/
  | tooLarge {negative : Bool} {before rest token : List Char} {c : Char} :
      WithSign negative (before ++ c :: rest) token → Digits (before ++ [c]) →
      Fits (value negative before) → greatest < value negative (before ++ [c]) →
      Denotes token (.error .tooLarge)
  /-- or downwards. -/
  | tooSmall {negative : Bool} {before rest token : List Char} {c : Char} :
      WithSign negative (before ++ c :: rest) token → Digits (before ++ [c]) →
      Fits (value negative before) → value negative (before ++ [c]) < least →
      Denotes token (.error .tooSmall)

theorem digits_concat {before : List Char} {c : Char} :
    Digits (before ++ [c]) ↔ Digits before ∧ c.isDigit = true := by
  rw [Digits, List.forall_mem_append, List.forall_mem_singleton]
  exact Iff.rfl

theorem value_nil (negative : Bool) : value negative [] = 0 := by
  cases negative <;> rfl

/-- One more digit. -/
theorem value_concat {before : List Char} {c : Char} (hc : c.isDigit = true) (negative : Bool) :
    value negative (before ++ [c]) =
      if negative then value negative before * 10 - digit c
      else value negative before * 10 + digit c := by
  have hsum : Nat.ofDigitChars 10 (before ++ [c]) 0 =
      10 * Nat.ofDigitChars 10 before 0 + (c.toNat - '0'.toNat) := by
    rw [Nat.ofDigitChars_append, Nat.ofDigitChars_cons, Nat.ofDigitChars_nil]
  rw [value, hsum, ← signed_digit hc]
  rfl

/-- Behind its sign a token is read digit by digit. -/
theorem read_withSign {negative : Bool} {cs token : List Char} (h : WithSign negative cs token)
    (hne : cs ≠ []) : read token = readDigits negative 0 cs := by
  cases h with
  | plus =>
    cases cs with
    | nil => exact absurd rfl hne
    | cons c cs => rfl
  | minus => exact read_minus hne
  | none hplus hminus =>
    unfold read
    split <;> simp_all

theorem exists_withSign (token : List Char) : ∃ negative cs, WithSign negative cs token := by
  by_cases hplus : token.head? = some '+'
  · obtain ⟨cs, rfl⟩ := List.head?_eq_some_iff.mp hplus
    exact ⟨false, cs, .plus cs⟩
  by_cases hminus : token.head? = some '-'
  · obtain ⟨cs, rfl⟩ := List.head?_eq_some_iff.mp hminus
    exact ⟨true, cs, .minus cs⟩
  exact ⟨false, token, .none hplus hminus⟩

/-- A sign alone is read as a character that is no digit. -/
theorem read_loneSign {negative : Bool} {token : List Char} (h : WithSign negative [] token)
    (hne : token ≠ []) : read token = .error .invalidDigit := by
  cases h with
  | plus => rfl
  | minus => rfl
  | none => exact absurd rfl hne

/-- The digits at the beginning of a token are read one after the other. -/
theorem read_withSign_append {negative : Bool} {before rest token : List Char}
    (hsign : WithSign negative (before ++ rest) token) (hne : before ++ rest ≠ [])
    (hdigits : Digits before) (hfits : Fits (value negative before)) :
    read token = readDigits negative (value negative before) rest := by
  have hread := readDigits_append negative rest before 0 hdigits hfits
  rw [read_withSign hsign hne, ← value_nil negative]
  exact hread

/-- **Reading on behind some digits** gives what the token denotes. The induction is on what is
left of the token; the digits before it have a value that fits, or the reading would have ended. -/
theorem denotes_readDigits {negative : Bool} {token : List Char} : ∀ (rest before : List Char),
    WithSign negative (before ++ rest) token → before ++ rest ≠ [] → Digits before →
    Fits (value negative before) → Denotes token (readDigits negative (value negative before) rest)
  | [], before, hsign, hne, hdigits, hfits => by
    rw [List.append_nil] at hsign hne
    exact .value hsign hne hdigits hfits
  | c :: rest, before, hsign, hne, hdigits, hfits => by
    rw [readDigits]
    by_cases hc : c.isDigit = true
    · have hmore : Digits (before ++ [c]) := digits_concat.mpr ⟨hdigits, hc⟩
      rw [if_pos hc, ← value_concat hc]
      simp only
      by_cases hlow : value negative (before ++ [c]) < least
      · rw [if_pos hlow]
        exact .tooSmall hsign hmore hfits hlow
      by_cases hhigh : greatest < value negative (before ++ [c])
      · rw [if_neg hlow, if_pos hhigh]
        exact .tooLarge hsign hmore hfits hhigh
      rw [if_neg hlow, if_neg hhigh]
      rw [List.append_cons] at hsign hne
      exact denotes_readDigits rest (before ++ [c]) hsign hne hmore
        ⟨Int.not_lt.mp hlow, Int.not_lt.mp hhigh⟩
    · rw [if_neg hc]
      exact .invalidDigit hsign hdigits hfits (Bool.eq_false_iff.mpr hc)

/-- A token denotes what reading it gives, -/
theorem denotes_read (token : List Char) : Denotes token (read token) := by
  obtain ⟨negative, cs, hsign⟩ := exists_withSign token
  by_cases hne : cs = []
  · subst hne
    by_cases hempty : token = []
    · rw [hempty]
      exact .empty
    · rw [read_loneSign hsign hempty]
      exact .loneSign hsign hempty
  · have hzero : Fits (value negative []) := by
      rw [value_nil]
      exact ⟨by decide, by decide⟩
    rw [read_withSign hsign hne, ← value_nil negative]
    exact denotes_readDigits cs [] hsign hne nofun hzero

/-- and nothing else. -/
theorem read_of_denotes {token : List Char} {result : Except Fault Int}
    (h : Denotes token result) : read token = result := by
  cases h with
  | value hsign hne hdigits hfits =>
    rw [read_withSign hsign hne, ← value_nil]
    exact readDigits_eq _ _ 0 hdigits hfits
  | empty => rfl
  | loneSign hsign hne => exact read_loneSign hsign hne
  | invalidDigit hsign hdigits hfits hc =>
    rw [read_withSign_append hsign (by simp) hdigits hfits, readDigits, if_neg (by simp [hc])]
  | tooLarge hsign hmore hfits hhigh =>
    obtain ⟨hdigits, hc⟩ := digits_concat.mp hmore
    have hlow : least ≤ greatest := by decide
    rw [read_withSign_append hsign (by simp) hdigits hfits, readDigits, if_pos hc,
      ← value_concat hc]
    simp only
    rw [if_neg (by omega), if_pos hhigh]
  | tooSmall hsign hmore hfits hlow =>
    obtain ⟨hdigits, hc⟩ := digits_concat.mp hmore
    rw [read_withSign_append hsign (by simp) hdigits hfits, readDigits, if_pos hc,
      ← value_concat hc]
    simp only
    rw [if_pos hlow]

/-- **A token is read as what it denotes.** -/
theorem read_eq_iff (token : List Char) (result : Except Fault Int) :
    read token = result ↔ Denotes token result :=
  ⟨fun h => h ▸ denotes_read token, read_of_denotes⟩

end Numeral
end StreamEditor
