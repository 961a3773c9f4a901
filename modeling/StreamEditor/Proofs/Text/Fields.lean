/-
# Fields and texts

The fields of a text are the only fields without the separator that join to the text
(`split_eq_iff`).

Key theorem: `Fields.split_eq_iff`.
-/
import StreamEditor.Text.Fields

namespace StreamEditor
namespace Fields

variable {sep : Char}

theorem join_cons_cons (sep c : Char) (f : List Char) (fields : List (List Char)) :
    join sep ((c :: f) :: fields) = c :: join sep (f :: fields) := by
  cases fields <;> rfl

/-- No field contains the separator. -/
theorem not_mem_of_mem_split : ∀ {cs f : List Char}, f ∈ split sep cs → sep ∉ f
  | [], f, hf => by
    rw [split, List.mem_singleton] at hf
    rw [hf]
    exact List.not_mem_nil
  | c :: cs, f, hf => by
    rw [split] at hf
    by_cases hc : c == sep
    · rw [if_pos hc] at hf
      rcases List.mem_cons.mp hf with rfl | hf
      · exact List.not_mem_nil
      · exact not_mem_of_mem_split hf
    · rw [if_neg hc] at hf
      obtain ⟨g, gs, hs⟩ := List.exists_cons_of_ne_nil (split_ne_nil sep cs)
      rw [hs] at hf
      have hmem : ∀ x ∈ g :: gs, sep ∉ x := fun x hx => not_mem_of_mem_split (hs ▸ hx)
      rcases List.mem_cons.mp hf with rfl | hf
      · rw [List.mem_cons, not_or]
        exact ⟨fun h => hc (beq_iff_eq.mpr h.symm), hmem g List.mem_cons_self⟩
      · exact hmem f (List.mem_cons_of_mem _ hf)

/-- Fields without the separator are the fields of the text to which they join. The recursion takes
the fields apart character by character, as `split` does. -/
theorem split_join : ∀ {fields : List (List Char)}, fields ≠ [] → (∀ f ∈ fields, sep ∉ f) →
    split sep (join sep fields) = fields
  | [], hne, _ => absurd rfl hne
  | [[]], _, _ => rfl
  | [] :: g :: fields, _, h => by
    have ih : split sep (join sep (g :: fields)) = g :: fields :=
      split_join (List.cons_ne_nil _ _) fun f hf => h f (List.mem_cons_of_mem _ hf)
    rw [join, List.nil_append, split, if_pos (BEq.rfl), ih]
    exact List.cons_ne_nil _ _
  | (c :: f) :: fields, _, h => by
    have hcf : sep ∉ c :: f := h _ List.mem_cons_self
    have ih : split sep (join sep (f :: fields)) = f :: fields := by
      refine split_join (List.cons_ne_nil _ _) fun x hx => ?_
      rcases List.mem_cons.mp hx with rfl | hx
      · exact fun hm => hcf (List.mem_cons_of_mem _ hm)
      · exact h x (List.mem_cons_of_mem _ hx)
    have hc : ¬ (c == sep) := fun he => hcf (by simp [beq_iff_eq.mp he])
    rw [join_cons_cons, split, if_neg hc, ih]
termination_by fields => (join sep fields).length
decreasing_by
  · simp [join]
  · simp [join_cons_cons]

/-- **The fields of a text** are those that join to it and do not contain the separator. -/
theorem split_eq_iff (cs : List Char) (fields : List (List Char)) :
    split sep cs = fields ↔ fields ≠ [] ∧ (∀ f ∈ fields, sep ∉ f) ∧ join sep fields = cs := by
  constructor
  · rintro rfl
    exact ⟨split_ne_nil sep cs, fun _ => not_mem_of_mem_split, join_split sep cs⟩
  · rintro ⟨hne, hfree, rfl⟩
    exact split_join hne hfree

end Fields
end StreamEditor
