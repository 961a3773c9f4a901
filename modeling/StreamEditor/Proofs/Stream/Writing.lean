/-
# What a sink takes

A fair sink takes at least one byte at every write that is not interrupted, as long as it has room,
and what it fails with once it is full is no interruption. Such a sink takes of some bytes the part
for which it has room, however it cuts them and whenever it interrupts, and writing them fails
exactly if that is not all of them (`writeAll_eq`, `writeEach_eq`).

Key definitions: `Sink.Fair`, `Sink.Unfailing`, `Sink.fitting`, `Sink.refusal`, `Sink.Took`.
Key theorems: `Sink.write_cases`, `Sink.writeAll_eq`, `Sink.writeEach_eq`.
-/
import StreamEditor.Stream.Sink

namespace StreamEditor
namespace Sink

/-- A fair sink: a write that is not interrupted takes at least a byte while there is room, and a
write to the full sink is not told to try again. -/
structure Fair (s : Sink) : Prop where
  most : s.most ≠ some 0
  later : ∀ turn ∈ s.later, turn.most ≠ some 0
  full : ∀ cause, s.full = some cause → cause.isInterruption = false

theorem unlimited_fair : unlimited.Fair :=
  ⟨by simp [unlimited], by simp [unlimited], by simp [unlimited]⟩

/-- The part of some bytes for which a sink has room. -/
def fitting (s : Sink) (bytes : Bytes) : Bytes :=
  match s.limit with
  | none => bytes
  | some limit => bytes.take (limit - s.taken.length)

/-- A new sink that never fails: it has room for everything, and flushing it succeeds. -/
structure Unfailing (s : Sink) : Prop where
  fair : s.Fair
  new : s.taken = []
  unlimited : s.limit = none
  flush : s.flushError = none

theorem unlimited_unfailing : unlimited.Unfailing := ⟨unlimited_fair, rfl, rfl, rfl⟩

theorem Unfailing.fitting {s : Sink} (h : s.Unfailing) (bytes : Bytes) :
    s.fitting bytes = bytes := by
  rw [Sink.fitting, h.unlimited]

/-- What writing to a full sink fails with. -/
def refusal (s : Sink) : SystemError := s.full.getD .nothingWritten

/-- The sink `t` is the fair sink that `s` has become by taking some bytes. -/
structure Took (s : Sink) (bytes : Bytes) (t : Sink) : Prop where
  taken : t.taken = s.taken ++ bytes
  limit : t.limit = s.limit
  full : t.full = s.full
  flushError : t.flushError = s.flushError
  fair : t.Fair

theorem Took.refl {s : Sink} (h : s.Fair) : s.Took [] s :=
  ⟨by simp, rfl, rfl, rfl, h⟩

theorem Took.trans {s t u : Sink} {a b : Bytes} (h : s.Took a t) (h' : t.Took b u) :
    s.Took (a ++ b) u :=
  ⟨by rw [h'.taken, h.taken, List.append_assoc], h'.limit.trans h.limit, h'.full.trans h.full,
    h'.flushError.trans h.flushError, h'.fair⟩

theorem Took.refusal {s t : Sink} {bytes : Bytes} (h : s.Took bytes t) : t.refusal = s.refusal := by
  rw [Sink.refusal, Sink.refusal, h.full]

@[simp]
theorem fitting_nil (s : Sink) : s.fitting [] = [] := by
  unfold fitting
  split <;> simp

/-- Bytes fit if there is room for as many. -/
theorem fitting_eq_self_iff (s : Sink) (bytes : Bytes) :
    s.fitting bytes = bytes ↔
      ∀ limit, s.limit = some limit → bytes.length ≤ limit - s.taken.length := by
  unfold fitting
  cases s.limit with
  | none => simp
  | some limit =>
    simp only [Option.some.injEq, forall_eq']
    constructor
    · intro h
      rw [← h, List.length_take]
      omega
    · exact List.take_of_length_le

/-- What fits behind bytes that fit is what fits once these are taken. -/
theorem Took.fitting_append {s t : Sink} {a : Bytes} (h : s.Took a t) (ha : s.fitting a = a)
    (b : Bytes) : s.fitting (a ++ b) = a ++ t.fitting b := by
  unfold fitting at *
  rw [h.limit, h.taken]
  cases hl : s.limit with
  | none => rfl
  | some limit =>
    rw [hl] at ha
    simp only at ha ⊢
    rw [List.take_append, ha, List.length_append, Nat.sub_sub]

theorem Took.fitting {s t : Sink} (h : s.Took [] t) (bytes : Bytes) :
    t.fitting bytes = s.fitting bytes := by
  simpa using (h.fitting_append s.fitting_nil bytes).symm

/-- Nothing fits behind bytes that do not fit. -/
theorem fitting_append_of_ne {s : Sink} {a : Bytes} (ha : s.fitting a ≠ a) (b : Bytes) :
    s.fitting (a ++ b) = s.fitting a ∧ s.fitting (a ++ b) ≠ a ++ b := by
  have hb : s.fitting (a ++ b) ≠ a ++ b := by
    intro h
    rw [fitting_eq_self_iff] at h
    refine ha ((s.fitting_eq_self_iff a).mpr fun limit hl => ?_)
    have := h limit hl
    rw [List.length_append] at this
    omega
  refine ⟨?_, hb⟩
  rw [ne_eq, fitting_eq_self_iff] at ha
  unfold fitting
  cases hl : s.limit with
  | none => simp [hl] at ha
  | some limit =>
    simp only [hl, Option.some.injEq, forall_eq', Nat.not_le] at ha
    exact List.take_append_of_le_length (by omega)

/-- What begins bytes that fit fits too. -/
theorem fitting_of_append {s : Sink} {a b : Bytes} (h : s.fitting (a ++ b) = a ++ b) :
    s.fitting a = a :=
  Decidable.byContradiction fun ha => (fitting_append_of_ne ha b).2 h

/-! ### A single write -/

theorem turned_took {s t : Sink} {bytes : Bytes} (h : s.Took bytes t) : s.Took bytes t.turned := by
  obtain ⟨h1, h2, h3, h4, h5⟩ := h
  unfold turned
  split
  · exact ⟨h1, h2, h3, h4, h5⟩
  · rename_i turn later hl
    have hturn := h5.later
    rw [hl] at hturn
    exact ⟨h1, h2, h3, h4, hturn turn List.mem_cons_self,
      fun x hx => hturn x (List.mem_cons_of_mem _ hx), h5.full⟩

theorem turned_patience {s : Sink} (h : s.interrupts = 0) : s.turned.patience = s.patience := by
  unfold turned patience
  split
  · rfl
  · rename_i hl
    simp [hl, h, interruptions]

/-- A fair sink has no room for a write only if it is full, since a write takes at least one byte
otherwise. -/
theorem Fair.limit_of_room {s : Sink} (hs : s.Fair) {size : Nat} (hpos : 0 < size)
    (h : s.room size = 0) : ∃ limit, s.limit = some limit ∧ limit ≤ s.taken.length := by
  have hmost : 0 < min size (s.most.getD size) := by
    cases hm : s.most with
    | none => simpa using hpos
    | some m =>
      have hne : m ≠ 0 := fun hz => hs.most (by rw [hm, hz])
      simp only [Option.getD_some]
      omega
  unfold room at h
  cases hl : s.limit with
  | none =>
    simp only [hl, Option.map_none, Option.getD_none] at h
    omega
  | some limit =>
    simp only [hl, Option.map_some, Option.getD_some] at h
    exact ⟨limit, rfl, by omega⟩

/-- A single write is interrupted, or finds the sink full, or takes some bytes that fit. -/
theorem write_cases {s : Sink} (hs : s.Fair) {bytes : Bytes} (hb : bytes ≠ []) :
    (∃ t, s.write bytes = (.error (.bare .interrupted), t) ∧ s.Took [] t ∧
      t.patience + 1 = s.patience) ∨
    (∃ t, s.fitting bytes = [] ∧ s.Took [] t ∧
      (s.write bytes = (.ok 0, t) ∧ s.full = none ∨
        ∃ cause, s.write bytes = (.error cause, t) ∧ s.full = some cause)) ∨
    (∃ n t, s.write bytes = (.ok (n + 1), t) ∧ n < bytes.length ∧
      s.fitting (bytes.take (n + 1)) = bytes.take (n + 1) ∧ s.Took (bytes.take (n + 1)) t ∧
      t.patience = s.patience) := by
  have hlen : 0 < bytes.length := List.length_pos_iff.mpr hb
  cases hi : s.interrupts with
  | succ k =>
    refine .inl ⟨{ s with interrupts := k }, by simp [write, hi], ⟨by simp, rfl, rfl, rfl, ?_⟩, ?_⟩
    · exact ⟨hs.most, hs.later, hs.full⟩
    · simp only [patience, hi]
      omega
  | zero =>
    have htook : ∀ n, s.Took (bytes.take n)
        { s with taken := s.taken ++ bytes.take n }.turned := fun n =>
      turned_took ⟨rfl, rfl, rfl, rfl, hs.most, hs.later, hs.full⟩
    by_cases hroom : s.room bytes.length = 0
    · obtain ⟨limit, hl, hle⟩ := hs.limit_of_room hlen hroom
      have hfit : s.fitting bytes = [] := by simp [fitting, hl, Nat.sub_eq_zero_of_le hle]
      refine .inr (.inl ?_)
      cases hf : s.full with
      | none =>
        refine ⟨_, hfit, by simpa using htook 0, .inl ⟨?_, rfl⟩⟩
        simp [write, hi, hf, hroom]
      | some cause =>
        exact ⟨s, hfit, .refl hs, .inr ⟨cause, by simp [write, hi, isFull, hl, hle, hf], rfl⟩⟩
    · obtain ⟨n, hn⟩ := Nat.exists_eq_succ_of_ne_zero hroom
      have hnot : s.isFull = false := by
        unfold isFull
        cases hl : s.limit with
        | none => rfl
        | some limit =>
          simp only [room, hl, Option.map_some, Option.getD_some] at hn
          simp only [Option.any_some, decide_eq_false_iff_not]
          omega
      refine .inr (.inr ⟨n, _, ?_, ?_, ?_, htook (n + 1), ?_⟩)
      · simp [write, hi, hnot, hn]
      · unfold room at hn
        omega
      · rw [fitting_eq_self_iff]
        intro limit hl
        simp only [room, hl, Option.map_some, Option.getD_some] at hn
        rw [List.length_take]
        omega
      · exact turned_patience (s := { s with taken := s.taken ++ bytes.take (n + 1) }) hi

/-! ### Writing all -/

/-- With enough fuel, a fair sink takes what fits, and writing fails unless that is all. -/
theorem writeFrom_eq : ∀ (fuel : Nat) (s : Sink) (bytes : Bytes), s.Fair →
    s.patience + bytes.length < fuel →
    ∃ t, s.Took (s.fitting bytes) t ∧
      writeFrom fuel s bytes = (if s.fitting bytes = bytes then none else some s.refusal, t)
  | 0, _, _, _, hf => by omega
  | fuel + 1, s, [], hs, _ => ⟨s, by simpa using Took.refl hs, by simp [writeFrom]⟩
  | fuel + 1, s, b :: rest, hs, hf => by
    rw [writeFrom]
    rcases write_cases hs (List.cons_ne_nil b rest) with
      ⟨t, hw, ht, hp⟩ | ⟨t, hfit, ht, hw⟩ | ⟨n, t, hw, hn, hfit, ht, hp⟩
    · -- interrupted: the same bytes are written again
      obtain ⟨u, hu, he⟩ := writeFrom_eq fuel t (b :: rest) ht.fair (by omega)
      rw [ht.fitting, ht.refusal] at he
      refine ⟨u, by simpa [ht.fitting] using ht.trans hu, ?_⟩
      rw [hw]
      exact he
    · refine ⟨t, by rw [hfit]; exact ht, ?_⟩
      rw [hfit, if_neg (List.cons_ne_nil b rest).symm]
      rcases hw with ⟨hw, hnone⟩ | ⟨cause, hw, hsome⟩
      · rw [hw, refusal, hnone]
        rfl
      · rw [hw, refusal, hsome]
        simp [hs.full cause hsome]
    · obtain ⟨u, hu, he⟩ := writeFrom_eq fuel t ((b :: rest).drop (n + 1)) ht.fair
        (by simp only [List.length_drop]; omega)
      have happ := ht.fitting_append hfit ((b :: rest).drop (n + 1))
      rw [List.take_append_drop] at happ
      -- all of the bytes fit if what is left of them fits behind those taken
      have hall : s.fitting (b :: rest) = b :: rest ↔
          t.fitting ((b :: rest).drop (n + 1)) = (b :: rest).drop (n + 1) := by
        conv => lhs; rhs; rw [← List.take_append_drop (n + 1) (b :: rest)]
        rw [happ, List.append_cancel_left_eq]
      refine ⟨u, by rw [happ]; exact ht.trans hu, ?_⟩
      rw [hw]
      simp only [hall]
      rw [he, ht.refusal]

/-- **A fair sink takes what fits**, and writing fails unless that is all. -/
theorem writeAll_eq {s : Sink} (hs : s.Fair) (bytes : Bytes) :
    ∃ t, s.Took (s.fitting bytes) t ∧
      s.writeAll bytes = (if s.fitting bytes = bytes then none else some s.refusal, t) :=
  writeFrom_eq _ s bytes hs (Nat.lt_succ_self _)

/-- **Pieces are taken as if they were written at once.** -/
theorem writeEach_eq : ∀ (pieces : List Bytes) {s : Sink}, s.Fair →
    ∃ t, s.Took (s.fitting pieces.flatten) t ∧
      s.writeEach pieces =
        (if s.fitting pieces.flatten = pieces.flatten then none else some s.refusal, t)
  | [], s, hs => ⟨s, by simpa using Took.refl hs, by simp [writeEach]⟩
  | piece :: pieces, s, hs => by
    obtain ⟨t, ht, he⟩ := writeAll_eq hs piece
    rw [writeEach, he, List.flatten_cons]
    by_cases hfit : s.fitting piece = piece
    · rw [hfit] at ht
      obtain ⟨u, hu, hr⟩ := writeEach_eq pieces ht.fair
      refine ⟨u, by rw [ht.fitting_append hfit]; exact ht.trans hu, ?_⟩
      rw [if_pos hfit, ht.fitting_append hfit]
      simp only [List.append_cancel_left_eq]
      rw [hr, ht.refusal]
    · obtain ⟨h1, h2⟩ := fitting_append_of_ne hfit pieces.flatten
      exact ⟨t, by rw [h1]; exact ht, by rw [if_neg hfit, if_neg h2]⟩

end Sink
end StreamEditor
