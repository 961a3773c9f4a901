/-
# Trees with an entry put or erased

Putting an entry at a place changes what stands at that place and nothing else (`get?_put`). An
entry put where nothing stands can be erased again, and the tree is then the one from before, not
only one with the same entries (`erase_put`).

Key theorems: `Tree.get?_put`, `Tree.erase_put`.
-/
import StreamEditor.Files.Aside

namespace StreamEditor
namespace Tree

variable {t : Tree} {l : Location} {e : Entry}

theorem get?_of_ne_nil (h : l ≠ []) : t.get? l = t.entries.lookup l := by
  cases l with
  | nil => exact absurd rfl h
  | cons => rfl

theorem lookup_filter_ne {l l' : Location} (h : l' ≠ l) : ∀ entries : List (Location × Entry),
    (entries.filter fun entry => entry.1 != l).lookup l' = entries.lookup l'
  | [] => rfl
  | (k, e) :: rest => by
    have ih := lookup_filter_ne h rest
    rw [List.filter_cons]
    by_cases hk : k = l
    · have hne : (l' == k) = false := beq_eq_false_iff_ne.mpr (hk ▸ h)
      rw [if_neg (by simp [hk]), ih, List.lookup_cons, hne]
    · rw [if_pos (by simpa using hk), List.lookup_cons, List.lookup_cons, ih]

/-- **What stands at a place once an entry is put.** -/
theorem get?_put (hl : l ≠ []) (e : Entry) (l' : Location) :
    (t.put l e).get? l' = if l' = l then some e else t.get? l' := by
  by_cases h : l' = l
  · rw [if_pos h, h, get?_of_ne_nil hl, put, List.lookup_cons, beq_self_eq_true]
  · rw [if_neg h]
    cases l' with
    | nil => rfl
    | cons n ns =>
      have hne : ((n :: ns) == l) = false := beq_eq_false_iff_ne.mpr h
      rw [get?_of_ne_nil (by simp), get?_of_ne_nil (by simp), put, List.lookup_cons, hne]
      exact lookup_filter_ne h t.entries

theorem get?_put_self (hl : l ≠ []) : (t.put l e).get? l = some e := by
  rw [get?_put hl, if_pos rfl]

theorem get?_put_of_ne {l' : Location} (hl : l ≠ []) (h : l' ≠ l) :
    (t.put l e).get? l' = t.get? l' := by
  rw [get?_put hl, if_neg h]

/-- An entry that is put replaces the one before. -/
theorem put_put (t : Tree) (l : Location) (e e' : Entry) : (t.put l e).put l e' = t.put l e' := by
  simp only [put, List.filter_cons, List.filter_filter]
  simp

/-- **An entry put where nothing stands can be erased again.** -/
theorem erase_put (hl : l ≠ []) (h : t.get? l = none) (e : Entry) : (t.put l e).erase l = t := by
  have hfree : ∀ entry ∈ t.entries, (entry.1 != l) = true := by
    rw [get?_of_ne_nil hl, List.lookup_eq_none_iff] at h
    intro entry hentry
    rw [bne_comm]
    exact h entry hentry
  have hkeep : (t.entries.filter fun entry => entry.1 != l) = t.entries :=
    List.filter_eq_self.mpr hfree
  simp only [put, erase, List.filter_cons, hkeep, bne_self_eq_false, Bool.false_eq_true,
    ↓reduceIte]

/-- Erasing what stands at a place changes no other place. -/
theorem get?_erase_of_ne (t : Tree) {l' : Location} (hl : l' ≠ l) :
    (t.erase l).get? l' = t.get? l' := by
  cases l' with
  | nil => rfl
  | cons n ns =>
    rw [get?_of_ne_nil (by simp), get?_of_ne_nil (by simp)]
    exact lookup_filter_ne hl t.entries

/-- What stands at a place once it is erased is a matter of the place alone. -/
theorem get?_erase_self (t t' : Tree) (l : Location) : (t.erase l).get? l = (t'.erase l).get? l := by
  have hnone : ∀ t : Tree, (t.erase l).entries.lookup l = none := fun t =>
    List.lookup_eq_none_iff.mpr fun entry hentry => by
      rw [bne_comm]
      exact (List.mem_filter.mp hentry).2
  cases l with
  | nil => rfl
  | cons n ns => rw [get?_of_ne_nil (by simp), get?_of_ne_nil (by simp), hnone, hnone]

theorem append_put (hl : l ≠ []) (old data : Bytes) (mode : Nat) :
    (t.put l (.file old mode)).append l data = t.put l (.file (old ++ data) mode) := by
  simp only [append, get?_put_self hl, put_put]

theorem setMode_put (hl : l ≠ []) (data : Bytes) (mode mode' : Nat) :
    (t.put l (.file data mode)).setMode l mode' = t.put l (.file data mode') := by
  simp only [setMode, get?_put_self hl, put_put]

end Tree
end StreamEditor
