/-
# The scan for a delimiter that is never closed

The scan reads a pattern once, with a stack. What is on the stack behind so many characters can be
told from the text alone: for groups it holds the parentheses that are open (`openGroups`), and for
classes the first bracket behind the last one that closes (`FirstAwaited`). So at the end the scan
finds the last parenthesis without a partner, or the first bracket behind the last closing one.

Key definitions: `Regex.ClassLeftOpen`, `Regex.scanBehind`, `Regex.FirstAwaited`.
Key theorem: `Regex.unclosedDelimiter?_eq_iff`.
-/
import StreamEditor.Proofs.Regex.Parentheses

namespace StreamEditor
namespace Regex

variable {pattern : List Char} {c d : Char} {i n : Nat} {stack : List Nat}

/-! ### Scans behind so many characters -/

/-- The scan behind so many characters. -/
def scanBehind (opening closing : Char) (inClass : Bool) (pattern : List Char) (n : Nat)
    (stack : List Nat) : Option Nat :=
  scanDelimiters opening closing (pattern.drop n) n (waiting (pattern.take n)) inClass stack

theorem scanBehind_length {inClass : Bool} :
    scanBehind c d inClass pattern pattern.length stack = stack.head? := by
  rw [scanBehind, List.drop_length, scanDelimiters]

/-- One step of the scan for groups, by the character there and whether it is escaped. -/
theorem scanDelimiters_group (c : Char) (cs : List Char) (n : Nat) (escaped inClass : Bool)
    (stack : List Nat) :
    scanDelimiters '(' ')' (c :: cs) n escaped inClass stack =
      scanDelimiters '(' ')' cs (n + 1) (!escaped && c == '\\')
        (!escaped && c == '[' || inClass && !(!escaped && c == ']'))
        (if (!escaped && c == '(') && !inClass then n :: stack
          else if (!escaped && c == ')') && !inClass then stack.tail
          else stack) := by
  rw [scanDelimiters]
  cases escaped with
  | true => simp
  | false =>
    by_cases hbackslash : c = '\\'
    · simp [hbackslash]
    by_cases hopening : c = '['
    · simp [hopening]
    by_cases hclosing : c = ']'
    · cases inClass <;> simp [hclosing]
    simp only [beq_false_of_ne hbackslash, beq_false_of_ne hopening, beq_false_of_ne hclosing]
    cases inClass with
    | true => simp
    | false =>
      by_cases hgroup : c = '('
      · simp [hgroup]
      · by_cases hend : c = ')' <;> simp [hgroup, hend]

/-- **The scan for groups keeps the open ones on its stack,** and knows whether it is between
brackets. -/
theorem scanBehind_openGroups (hn : n < pattern.length) :
    scanBehind '(' ')' (decide (Bracketed pattern n)) pattern n (openGroups pattern n) =
      scanBehind '(' ')' (decide (Bracketed pattern (n + 1))) pattern (n + 1)
        (openGroups pattern (n + 1)) := by
  unfold scanBehind
  rw [List.drop_eq_getElem_cons hn, waiting_take_succ hn, scanDelimiters_group]
  congr 1
  · rw [Bool.eq_iff_iff]
    simp [bracketed_succ, unescaped_iff hn]
  · simp [openGroups, Parenthesis, unescaped_iff hn, and_assoc]

/-- So the scan may be taken up behind any number of characters. -/
theorem unclosedDelimiter?_eq_groups (hn : n ≤ pattern.length) :
    unclosedDelimiter? pattern '(' ')' =
      scanBehind '(' ')' (decide (Bracketed pattern n)) pattern n (openGroups pattern n) := by
  induction n with
  | zero => rfl
  | succ n ih => exact (ih (by omega)).trans (scanBehind_openGroups (by omega))

/-! ### The stack of the open class -/

/-- The place of the bracket that opens a class after so many characters, if there is one. -/
def openClasses (pattern : List Char) : Nat → List Nat
  | 0 => []
  | n + 1 =>
    if Unescaped pattern '[' n ∧ openClasses pattern n = [] then n :: openClasses pattern n
    else if Unescaped pattern ']' n then (openClasses pattern n).tail
    else openClasses pattern n

/-- Whether a class is opened at a place behind the last bracket that closes one. -/
def ClassLeftOpen (pattern : List Char) (i : Nat) : Prop :=
  Unescaped pattern '[' i ∧ ∀ k, Unescaped pattern ']' k → k < i

/-- Whether a class is opened among the characters before a place, behind the last bracket there
that closes one. -/
def Awaited (pattern : List Char) (n i : Nat) : Prop :=
  i < n ∧ Unescaped pattern '[' i ∧ ∀ k < n, Unescaped pattern ']' k → k < i

/-- What the stack for classes says of the characters before a place: it holds the first bracket
behind the last one that closes. -/
def FirstAwaited (pattern : List Char) (n : Nat) : List Nat → Prop
  | [] => ∀ i, ¬ Awaited pattern n i
  | i :: stack => stack = [] ∧ Awaited pattern n i ∧ ∀ j < i, ¬ Awaited pattern n j

theorem awaited_succ : Awaited pattern (n + 1) i ↔
    Awaited pattern n i ∧ ¬ Unescaped pattern ']' n ∨ i = n ∧ Unescaped pattern '[' n := by
  constructor
  · rintro ⟨hi, hopening, hlast⟩
    rcases Nat.lt_succ_iff_lt_or_eq.mp hi with hi | rfl
    · refine .inl ⟨⟨hi, hopening, fun k hk => hlast k (by omega)⟩, fun hclosing => ?_⟩
      have hlt := hlast n (by omega) hclosing
      omega
    · exact .inr ⟨rfl, hopening⟩
  · rintro (⟨⟨hi, hopening, hlast⟩, hn⟩ | ⟨rfl, hopening⟩)
    · refine ⟨by omega, hopening, fun k hk hclosing => ?_⟩
      rcases Nat.lt_succ_iff_lt_or_eq.mp hk with hk | rfl
      · exact hlast k hk hclosing
      · exact absurd hclosing hn
    · refine ⟨by omega, hopening, fun k hk hclosing => ?_⟩
      rcases Nat.lt_succ_iff_lt_or_eq.mp hk with hk | rfl
      · exact hk
      · exact absurd (hopening.unique hclosing) (by decide)

theorem awaited_length_iff : Awaited pattern pattern.length i ↔ ClassLeftOpen pattern i :=
  ⟨fun h => ⟨h.2.1, fun k hclosing => h.2.2 k hclosing.lt_length hclosing⟩,
    fun h => ⟨h.1.lt_length, h.1, fun k _ => h.2 k⟩⟩

namespace FirstAwaited

/-- A bracket opens a class at a place where none is open. -/
theorem opened (h : FirstAwaited pattern n []) (hopening : Unescaped pattern '[' n) :
    FirstAwaited pattern (n + 1) [n] := by
  refine ⟨rfl, awaited_succ.mpr (.inr ⟨rfl, hopening⟩), fun j hj hawaited => ?_⟩
  rcases awaited_succ.mp hawaited with ⟨hawaited, -⟩ | ⟨rfl, -⟩
  · exact h j hawaited
  · omega

/-- A bracket closes the class at a place, if one is open. -/
theorem closed (h : FirstAwaited pattern n stack) (hclosing : Unescaped pattern ']' n) :
    FirstAwaited pattern (n + 1) stack.tail := by
  have hnone : ∀ i, ¬ Awaited pattern (n + 1) i := by
    intro i hawaited
    rcases awaited_succ.mp hawaited with ⟨-, hn⟩ | ⟨-, hopening⟩
    · exact hn hclosing
    · exact absurd (hopening.unique hclosing) (by decide)
  cases stack with
  | nil => exact hnone
  | cons i stack =>
    rw [h.1]
    exact hnone

/-- Nothing changes at a place. -/
theorem pass (h : FirstAwaited pattern n stack)
    (hopening : ¬ (Unescaped pattern '[' n ∧ stack = [])) (hclosing : ¬ Unescaped pattern ']' n) :
    FirstAwaited pattern (n + 1) stack := by
  cases stack with
  | nil =>
    intro i hawaited
    rcases awaited_succ.mp hawaited with ⟨hawaited, -⟩ | ⟨-, hn⟩
    · exact h i hawaited
    · exact hopening ⟨hn, rfl⟩
  | cons i stack =>
    obtain ⟨hrest, hi, hfirst⟩ := h
    refine ⟨hrest, awaited_succ.mpr (.inl ⟨hi, hclosing⟩), fun j hj hawaited => ?_⟩
    rcases awaited_succ.mp hawaited with ⟨hawaited, -⟩ | ⟨rfl, -⟩
    · exact hfirst j hj hawaited
    · have hlt := hi.1
      omega

theorem head?_eq_some_iff (h : FirstAwaited pattern n stack) :
    stack.head? = some i ↔ Awaited pattern n i ∧ ∀ j < i, ¬ Awaited pattern n j := by
  cases stack with
  | nil =>
    have hnone := h i
    simp [hnone]
  | cons i' stack =>
    obtain ⟨-, hi', hfirst⟩ := h
    rw [List.head?_cons, Option.some.injEq]
    constructor
    · rintro rfl
      exact ⟨hi', hfirst⟩
    · rintro ⟨hi, hfirst'⟩
      rcases Nat.lt_trichotomy i' i with hlt | rfl | hgt
      · exact absurd hi' (hfirst' i' hlt)
      · rfl
      · exact absurd hi (hfirst i hgt)

theorem head?_eq_none_iff (h : FirstAwaited pattern n stack) :
    stack.head? = none ↔ ∀ i, ¬ Awaited pattern n i := by
  cases stack with
  | nil => exact iff_of_true rfl h
  | cons i stack => exact iff_of_false (by simp) fun hnone => hnone i h.2.1

end FirstAwaited

theorem firstAwaited_openClasses (pattern : List Char) (n : Nat) :
    FirstAwaited pattern n (openClasses pattern n) := by
  induction n with
  | zero => exact fun i h => absurd h.1 (by omega)
  | succ n ih =>
    unfold openClasses
    split
    · rename_i hfirst
      rw [hfirst.2] at ih ⊢
      exact ih.opened hfirst.1
    · rename_i hopening
      split
      · rename_i hclosing
        exact ih.closed hclosing
      · rename_i hclosing
        exact ih.pass hopening hclosing

/-- One step of the scan for classes, by the character there and whether it is escaped. -/
theorem scanDelimiters_class (c : Char) (cs : List Char) (n : Nat) (escaped : Bool)
    (stack : List Nat) :
    scanDelimiters '[' ']' (c :: cs) n escaped false stack =
      scanDelimiters '[' ']' cs (n + 1) (!escaped && c == '\\') false
        (if (!escaped && c == '[') && stack.isEmpty then n :: stack
          else if !escaped && c == ']' then stack.tail
          else stack) := by
  rw [scanDelimiters]
  cases escaped with
  | true => simp
  | false =>
    by_cases hbackslash : c = '\\'
    · simp [hbackslash]
    by_cases hopening : c = '['
    · cases stack <;> simp [hopening]
    simp only [beq_false_of_ne hbackslash, beq_false_of_ne hopening]
    by_cases hclosing : c = ']' <;> simp [hclosing]

/-- **The scan for classes keeps the open one on its stack.** -/
theorem scanBehind_openClasses (hn : n < pattern.length) :
    scanBehind '[' ']' false pattern n (openClasses pattern n) =
      scanBehind '[' ']' false pattern (n + 1) (openClasses pattern (n + 1)) := by
  unfold scanBehind
  rw [List.drop_eq_getElem_cons hn, waiting_take_succ hn, scanDelimiters_class]
  congr 1
  simp [openClasses, unescaped_iff hn]

theorem unclosedDelimiter?_eq_classes (hn : n ≤ pattern.length) :
    unclosedDelimiter? pattern '[' ']' =
      scanBehind '[' ']' false pattern n (openClasses pattern n) := by
  induction n with
  | zero => rfl
  | succ n ih => exact (ih (by omega)).trans (scanBehind_openClasses (by omega))

/-! ### What the scans find -/

/-- **The delimiter that is never closed.** Escaped characters count for nothing. The scan for
groups finds the last parenthesis outside of brackets that has no partner, and nothing only if all
have one; the scan for classes finds the first bracket behind the last that closes a class, and
nothing only if there is none. -/
theorem unclosedDelimiter?_eq_iff (pattern : List Char) :
    (∀ i, unclosedDelimiter? pattern '(' ')' = some i ↔
      GroupLeftOpen pattern i ∧ ∀ j, i < j → ¬ GroupLeftOpen pattern j) ∧
    (unclosedDelimiter? pattern '(' ')' = none ↔
      ∀ i, Parenthesis pattern '(' i → ∃ k, Partners pattern i k) ∧
    (∀ i, unclosedDelimiter? pattern '[' ']' = some i ↔
      ClassLeftOpen pattern i ∧ ∀ j < i, ¬ ClassLeftOpen pattern j) ∧
    (unclosedDelimiter? pattern '[' ']' = none ↔ ∀ i, ¬ ClassLeftOpen pattern i) := by
  have hgroups : unclosedDelimiter? pattern '(' ')' =
      (openGroups pattern pattern.length).head? := by
    rw [unclosedDelimiter?_eq_groups (Nat.le_refl _), scanBehind_length]
  have hclasses : unclosedDelimiter? pattern '[' ']' =
      (openClasses pattern pattern.length).head? := by
    rw [unclosedDelimiter?_eq_classes (Nat.le_refl _), scanBehind_length]
  have hstacked := stacked_openGroups pattern pattern.length
  have hfirst := firstAwaited_openClasses pattern pattern.length
  rw [hgroups, hclasses]
  refine ⟨fun i => ?_, ?_, fun i => ?_, ?_⟩
  · simp only [hstacked.head?_eq_some_iff, hstacked.mem_iff]
  · rw [List.head?_eq_none_iff, List.eq_nil_iff_forall_not_mem]
    refine forall_congr' fun i => ?_
    rw [hstacked.mem_iff, GroupLeftOpen, not_and, Classical.not_forall]
    simp only [Classical.not_not]
  · simp only [hfirst.head?_eq_some_iff, awaited_length_iff]
  · simp only [hfirst.head?_eq_none_iff, awaited_length_iff]

/-- The outer group is left open, not the last that is opened; the class is the first of two
brackets. -/
example : unclosedDelimiter? "((a)[)]\\)".toList '(' ')' = some 0 ∧
    unclosedDelimiter? "[]a[b[c".toList '[' ']' = some 3 := by decide

end Regex
end StreamEditor
