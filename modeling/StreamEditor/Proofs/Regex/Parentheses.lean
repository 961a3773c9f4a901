/-
# Parentheses that close each other

In a pattern a backslash takes the next character with it, and between brackets a parenthesis
stands for itself. The other parentheses are matched in the usual way: two of them are partners if
what lies between is matched among itself (`Nested`). Read from the left, all parentheses are
closed but those on a stack, and between two of these, and behind the innermost, parentheses are
nested (`Stacked`).

Key definitions: `Regex.Unescaped`, `Regex.Bracketed`, `Regex.Nested`, `Regex.Partners`,
`Regex.GroupLeftOpen`, `Regex.Stacked`.
Key theorems: `Regex.Stacked.mem_iff`, `Regex.stacked_openGroups`.
-/
import StreamEditor.Proofs.Regex.Scans

namespace StreamEditor
namespace Regex

variable {pattern : List Char} {c d : Char} {i j k m n : Nat} {stack : List Nat}

/-! ### Places of a pattern -/

/-- Whether a character stands at a place, and no backslash takes it with it. -/
def Unescaped (pattern : List Char) (c : Char) (i : Nat) : Prop :=
  waiting (pattern.take i) = false ∧ pattern[i]? = some c

/-- Whether a place lies between brackets: behind an opening one, and not behind the next one that
closes. -/
def Bracketed (pattern : List Char) (i : Nat) : Prop :=
  ∃ j < i, Unescaped pattern '[' j ∧ ∀ k < i, j < k → ¬ Unescaped pattern ']' k

/-- Whether a parenthesis stands at a place, neither escaped nor between brackets. -/
def Parenthesis (pattern : List Char) (c : Char) (i : Nat) : Prop :=
  Unescaped pattern c i ∧ ¬ Bracketed pattern i

instance (pattern : List Char) (c : Char) (i : Nat) : Decidable (Unescaped pattern c i) :=
  inferInstanceAs (Decidable (_ ∧ _))

instance (pattern : List Char) (i : Nat) : Decidable (Bracketed pattern i) :=
  inferInstanceAs (Decidable (∃ j < i, _ ∧ _))

instance (pattern : List Char) (c : Char) (i : Nat) : Decidable (Parenthesis pattern c i) :=
  inferInstanceAs (Decidable (_ ∧ _))

theorem Unescaped.lt_length (h : Unescaped pattern c i) : i < pattern.length :=
  (List.getElem?_eq_some_iff.mp h.2).1

theorem Unescaped.unique (h : Unescaped pattern c i) (k : Unescaped pattern d i) : c = d :=
  Option.some.inj (h.2.symm.trans k.2)

theorem unescaped_iff (hn : n < pattern.length) :
    Unescaped pattern c n ↔ waiting (pattern.take n) = false ∧ pattern[n] = c := by
  rw [Unescaped, List.getElem?_eq_getElem hn, Option.some.injEq]

theorem waiting_take_succ (hn : n < pattern.length) :
    waiting (pattern.take (n + 1)) = (!waiting (pattern.take n) && pattern[n] == '\\') := by
  rw [List.take_succ_eq_append_getElem hn, waiting_concat]

/-- What a character does to the places behind it. -/
theorem bracketed_succ : Bracketed pattern (n + 1) ↔
    Unescaped pattern '[' n ∨ Bracketed pattern n ∧ ¬ Unescaped pattern ']' n := by
  constructor
  · rintro ⟨j, hj, hopening, hnone⟩
    rcases Nat.lt_succ_iff_lt_or_eq.mp hj with hj | rfl
    · right
      exact ⟨⟨j, hj, hopening, fun k hk => hnone k (by omega)⟩, hnone n (by omega) hj⟩
    · left
      exact hopening
  · rintro (hopening | ⟨⟨j, hj, hopening, hnone⟩, hlast⟩)
    · exact ⟨n, by omega, hopening, by omega⟩
    · refine ⟨j, by omega, hopening, fun k hk hjk => ?_⟩
      rcases Nat.lt_succ_iff_lt_or_eq.mp hk with hk | rfl
      · exact hnone k hk hjk
      · exact hlast

/-- No parenthesis both opens and closes. -/
theorem Parenthesis.not_closing (h : Parenthesis pattern '(' i) : ¬ Parenthesis pattern ')' i :=
  fun k => absurd (h.1.unique k.1) (by decide)

/-! ### Nested parentheses -/

/-- Whether the parentheses from one place up to another are matched among each other: places
without a parenthesis are passed over, and a pair is closed around what is matched itself. -/
inductive Nested (pattern : List Char) : Nat → Nat → Prop
  | none (i : Nat) : Nested pattern i i
  | pass {i n : Nat} : Nested pattern i n → ¬ Parenthesis pattern '(' n →
      ¬ Parenthesis pattern ')' n → Nested pattern i (n + 1)
  | pair {i j k : Nat} : Nested pattern i j → Parenthesis pattern '(' j →
      Nested pattern (j + 1) k → Parenthesis pattern ')' k → Nested pattern i (k + 1)

/-- Whether the parenthesis at one place is closed by that at another. -/
def Partners (pattern : List Char) (i k : Nat) : Prop :=
  Parenthesis pattern '(' i ∧ Nested pattern (i + 1) k ∧ Parenthesis pattern ')' k

/-- Whether a group is opened at a place and never closed. -/
def GroupLeftOpen (pattern : List Char) (i : Nat) : Prop :=
  Parenthesis pattern '(' i ∧ ∀ k, ¬ Partners pattern i k

/-- Whether the parenthesis at a place is closed before another place. -/
def ClosedBefore (pattern : List Char) (n i : Nat) : Prop :=
  ∃ k < n, Partners pattern i k

theorem ClosedBefore.mono (h : ClosedBefore pattern m i) (hle : m ≤ n) :
    ClosedBefore pattern n i := by
  obtain ⟨k, hk, hpartners⟩ := h
  exact ⟨k, by omega, hpartners⟩

theorem Nested.le (h : Nested pattern i n) : i ≤ n := by
  induction h with
  | none => exact Nat.le_refl _
  | pass _ _ _ ih => omega
  | pair _ _ _ _ ih ih' => omega

/-- What is opened where parentheses are nested is closed there. -/
theorem Nested.closedBefore (h : Nested pattern i n) (hij : i ≤ j) (hjn : j < n)
    (hj : Parenthesis pattern '(' j) : ClosedBefore pattern n j := by
  induction h with
  | none => omega
  | @pass i n _ hopening _ ih =>
    rcases Nat.lt_succ_iff_lt_or_eq.mp hjn with hjn | rfl
    · exact (ih hij hjn).mono (by omega)
    · exact absurd hj hopening
  | @pair i m k _ hm hinner hk ih ih' =>
    have hle := hinner.le
    rcases Nat.lt_trichotomy j m with hlt | rfl | hgt
    · exact (ih hij hlt).mono (by omega)
    · exact ⟨k, by omega, hm, hinner, hk⟩
    · rcases Nat.lt_succ_iff_lt_or_eq.mp hjn with hjk | rfl
      · exact (ih' hgt hjk).mono (by omega)
      · exact absurd hk hj.not_closing

/-- Where parentheses are nested, none closes what is opened before. -/
theorem Nested.not_closing (h : Nested pattern i n) (hkn : k < n) (hik : Nested pattern i k) :
    ¬ Parenthesis pattern ')' k := by
  induction h generalizing k with
  | none =>
    have hle := hik.le
    omega
  | @pass i n _ _ hclosing ih =>
    rcases Nat.lt_succ_iff_lt_or_eq.mp hkn with hkn | rfl
    · exact ih hkn hik
    · exact hclosing
  | @pair i m n houter hm _ _ ih ih' =>
    intro hk
    rcases Nat.lt_trichotomy k m with hlt | rfl | hgt
    · exact ih hlt hik hk
    · exact hm.not_closing hk
    · -- the parenthesis at `m` has a partner before `k` then, and none there may close it
      obtain ⟨k', hk', -, hinner, hclosing⟩ := hik.closedBefore houter.le hgt hm
      exact ih' (by omega) hinner hclosing

/-! ### The stack of open groups -/

/-- The places of the parentheses that are open after so many characters, the innermost first. -/
def openGroups (pattern : List Char) : Nat → List Nat
  | 0 => []
  | n + 1 =>
    if Parenthesis pattern '(' n then n :: openGroups pattern n
    else if Parenthesis pattern ')' n then (openGroups pattern n).tail
    else openGroups pattern n

/-- What a stack of places says of the characters before a place: all parentheses are closed but
those on the stack, and between these, and behind the innermost, parentheses are nested. -/
inductive Stacked (pattern : List Char) : Nat → List Nat → Prop
  | nil {n : Nat} : (∀ j < n, Parenthesis pattern '(' j → ClosedBefore pattern n j) →
      Stacked pattern n []
  | cons {i n : Nat} {stack : List Nat} : Stacked pattern i stack → Parenthesis pattern '(' i →
      Nested pattern (i + 1) n → Stacked pattern n (i :: stack)

namespace Stacked

/-- Nothing is open, and nothing is opened at a place. -/
theorem nil_succ (h : Stacked pattern n []) (hn : ¬ Parenthesis pattern '(' n) :
    Stacked pattern (n + 1) [] := by
  cases h with
  | nil hclosed =>
    refine .nil fun j hj hopening => ?_
    rcases Nat.lt_succ_iff_lt_or_eq.mp hj with hj | rfl
    · exact (hclosed j hj hopening).mono (by omega)
    · exact absurd hopening hn

/-- Nothing is opened or closed at a place. -/
theorem pass (h : Stacked pattern n stack) (hopening : ¬ Parenthesis pattern '(' n)
    (hclosing : ¬ Parenthesis pattern ')' n) : Stacked pattern (n + 1) stack := by
  cases h with
  | nil hclosed => exact (nil hclosed).nil_succ hopening
  | cons hbehind hi hnested => exact hbehind.cons hi (hnested.pass hopening hclosing)

/-- The innermost group is closed at a place. -/
theorem close (h : Stacked pattern n (i :: stack)) (hn : Parenthesis pattern ')' n) :
    Stacked pattern (n + 1) stack := by
  obtain _ | ⟨hbehind, hi, hnested⟩ := h
  have hle := hnested.le
  cases hbehind with
  | nil hclosed =>
    refine .nil fun j hj hopening => ?_
    rcases Nat.lt_trichotomy j i with hlt | rfl | hgt
    · exact (hclosed j hlt hopening).mono (by omega)
    · exact ⟨n, by omega, hi, hnested, hn⟩
    · have hne : j ≠ n := by
        rintro rfl
        exact hopening.not_closing hn
      exact (hnested.closedBefore hgt (by omega) hopening).mono (by omega)
  | cons houter hi' hnested' => exact houter.cons hi' (hnested'.pair hi hnested hn)

theorem lt_of_mem (h : Stacked pattern n stack) (hj : j ∈ stack) : j < n := by
  induction h with
  | nil => cases hj
  | @cons i n stack _ _ hnested ih =>
    have hle := hnested.le
    rcases List.mem_cons.mp hj with rfl | hj
    · omega
    · have hlt := ih hj
      omega

theorem parenthesis_of_mem (h : Stacked pattern n stack) (hj : j ∈ stack) :
    Parenthesis pattern '(' j := by
  induction h with
  | nil => cases hj
  | cons _ hi _ ih =>
    rcases List.mem_cons.mp hj with rfl | hj
    · exact hi
    · exact ih hj

/-- What is on the stack is not closed. -/
theorem not_partners (h : Stacked pattern n stack) (hj : j ∈ stack) (hk : k < n) :
    ¬ Partners pattern j k := by
  rintro ⟨hopening, hinner, hclosing⟩
  induction h generalizing k with
  | nil => cases hj
  | @cons i n stack hbehind hi hnested ih =>
    rcases List.mem_cons.mp hj with rfl | hj
    · exact hnested.not_closing hk hinner hclosing
    · rcases Nat.lt_trichotomy k i with hlt | rfl | hgt
      · exact ih hj hlt hinner hclosing
      · exact hi.not_closing hclosing
      · -- the group around `i` would hold the partner of `i` as well
        obtain ⟨k', hk', -, hinner', hclosing'⟩ :=
          hinner.closedBefore (hbehind.lt_of_mem hj) hgt hi
        exact hnested.not_closing (by omega) hinner' hclosing'

/-- What is not on the stack is closed. -/
theorem closedBefore (h : Stacked pattern n stack) (hj : j ∉ stack) (hjn : j < n)
    (hopening : Parenthesis pattern '(' j) : ClosedBefore pattern n j := by
  induction h with
  | nil hclosed => exact hclosed j hjn hopening
  | @cons i n stack _ _ hnested ih =>
    have hle := hnested.le
    rw [List.mem_cons, not_or] at hj
    rcases Nat.lt_or_gt_of_ne hj.1 with hlt | hgt
    · exact (ih hj.2 hlt).mono (by omega)
    · exact hnested.closedBefore hgt hjn hopening

/-- **The groups on the stack after the whole pattern are those left open.** -/
theorem mem_iff (h : Stacked pattern pattern.length stack) :
    j ∈ stack ↔ GroupLeftOpen pattern j := by
  constructor
  · intro hj
    refine ⟨h.parenthesis_of_mem hj, fun k hpartners => ?_⟩
    exact h.not_partners hj hpartners.2.2.1.lt_length hpartners
  · rintro ⟨hopening, hnone⟩
    refine Decidable.byContradiction fun hj => ?_
    obtain ⟨k, -, hpartners⟩ := h.closedBefore hj hopening.1.lt_length hopening
    exact hnone k hpartners

/-- The innermost of the groups on the stack is the last. -/
theorem head?_eq_some_iff (h : Stacked pattern n stack) :
    stack.head? = some i ↔ i ∈ stack ∧ ∀ j, i < j → j ∉ stack := by
  cases h with
  | nil => simp
  | @cons i' _ stack hbehind _ _ =>
    have hlt : ∀ j ∈ stack, j < i' := fun j => hbehind.lt_of_mem
    rw [List.head?_cons, Option.some.injEq]
    constructor
    · rintro rfl
      refine ⟨List.mem_cons_self, fun j hij hj => ?_⟩
      rcases List.mem_cons.mp hj with rfl | hj
      · omega
      · have hji := hlt j hj
        omega
    · rintro ⟨hi, hlast⟩
      rcases List.mem_cons.mp hi with rfl | hi
      · rfl
      · exact absurd List.mem_cons_self (hlast i' (hlt i hi))

end Stacked

/-- **Every character keeps the stack in order.** -/
theorem stacked_openGroups (pattern : List Char) (n : Nat) :
    Stacked pattern n (openGroups pattern n) := by
  induction n with
  | zero => exact .nil (by omega)
  | succ n ih =>
    unfold openGroups
    split
    · rename_i hopening
      exact ih.cons hopening (.none _)
    · rename_i hopening
      split
      · rename_i hclosing
        cases hstack : openGroups pattern n with
        | nil => exact (hstack ▸ ih).nil_succ hopening
        | cons i stack => exact (hstack ▸ ih).close hclosing
      · rename_i hclosing
        exact ih.pass hopening hclosing

end Regex
end StreamEditor
