/-
# Results of steps

A step gives a value or an error, and steps that follow one another end with the first error. These
rules say where the value or the error of such steps comes from.

Key definition: `Result.Ends`.
Key theorems: `Result.bind_eq_ok`, `Result.bind_eq_error`, `Result.Ends.bind`.
-/

namespace StreamEditor
namespace Result

variable {ε ε' α β : Type}

theorem bind_eq (x : Except ε α) (f : α → Except ε β) : x.bind f = x >>= f := rfl

theorem bind_eq_ok {x : Except ε α} {f : α → Except ε β} {b : β} :
    x >>= f = .ok b ↔ ∃ a, x = .ok a ∧ f a = .ok b := by
  cases x with
  | error e => exact iff_of_false nofun fun ⟨_, h, _⟩ => nomatch h
  | ok a =>
    constructor
    · exact fun h => ⟨a, rfl, h⟩
    · rintro ⟨_, ⟨⟩, h⟩
      exact h

theorem bind_eq_error {x : Except ε α} {f : α → Except ε β} {e : ε} :
    x >>= f = .error e ↔ x = .error e ∨ ∃ a, x = .ok a ∧ f a = .error e := by
  cases x with
  | error e' =>
    constructor
    · rintro ⟨⟩
      exact .inl rfl
    · rintro (⟨⟨⟩⟩ | ⟨_, h, _⟩)
      · rfl
      · cases h
  | ok a =>
    constructor
    · exact fun h => .inr ⟨a, rfl, h⟩
    · rintro (h | ⟨_, ⟨⟩, h⟩)
      · cases h
      · exact h

theorem mapError_eq_ok {x : Except ε α} {f : ε → ε'} {a : α} :
    x.mapError f = .ok a ↔ x = .ok a := by
  cases x with
  | error e => exact iff_of_false nofun nofun
  | ok a' =>
    constructor
    · rintro ⟨⟩
      rfl
    · rintro ⟨⟩
      rfl

theorem mapError_eq_error {x : Except ε α} {f : ε → ε'} {e' : ε'} :
    x.mapError f = .error e' ↔ ∃ e, x = .error e ∧ f e = e' := by
  cases x with
  | error e =>
    constructor
    · rintro ⟨⟩
      exact ⟨e, rfl, rfl⟩
    · rintro ⟨_, ⟨⟩, rfl⟩
      rfl
  | ok a => exact iff_of_false nofun fun ⟨_, h, _⟩ => nomatch h

theorem map_eq_ok {x : Except ε α} {f : α → β} {b : β} :
    x.map f = .ok b ↔ ∃ a, x = .ok a ∧ f a = b := by
  cases x with
  | error e => exact iff_of_false nofun fun ⟨_, h, _⟩ => nomatch h
  | ok a =>
    constructor
    · rintro ⟨⟩
      exact ⟨a, rfl, rfl⟩
    · rintro ⟨_, ⟨⟩, rfl⟩
      rfl

theorem map_eq_error {x : Except ε α} {f : α → β} {e : ε} :
    x.map f = .error e ↔ x = .error e := by
  cases x with
  | error e' =>
    constructor
    · rintro ⟨⟩
      rfl
    · rintro ⟨⟩
      rfl
  | ok a => exact iff_of_false nofun nofun

/-- What a step comes to: a value of which `good` holds, or an error of which `fault` holds. -/
def Ends (good : α → Prop) (fault : ε → Prop) : Except ε α → Prop
  | .ok a => good a
  | .error e => fault e

namespace Ends

variable {good good' : α → Prop} {other : β → Prop} {fault fault' : ε → Prop} {x : Except ε α}

theorem mono (h : Ends good fault x) (hgood : ∀ a, good a → good' a)
    (hfault : ∀ e, fault e → fault' e) : Ends good' fault' x := by
  cases x with
  | error e => exact hfault e h
  | ok a => exact hgood a h

theorem mono_fault (h : Ends good fault x) (hfault : ∀ e, fault e → fault' e) :
    Ends good fault' x :=
  h.mono (fun _ => id) hfault

theorem bind (h : Ends good fault x) {f : α → Except ε β}
    (hf : ∀ a, good a → Ends other fault (f a)) : Ends other fault (x >>= f) := by
  cases x with
  | error e => exact h
  | ok a => exact hf a h

end Ends

end Result
end StreamEditor
