/-
# The matches in a text, one after the other

A search never goes back: the match it finds starts at the place it was asked at or after it, and
stops at its start or after it (`Program.search_ahead`). The search for the next match passes over
an empty match at the end of the last one, so every match after the first stops further on
(`nextMatch?_progress`), and there are at most as many matches as places (`length_matchesFrom`).
So the list of all matches needs no bound (`allMatches`), and replacing all matches, or the first
one, is putting new text in the place of all of them, or of the first one
(`replaceAll?_eq`, `replaceFirst?_eq`).

Key definitions: `Regex.allMatches`, `Regex.splice`, `Regex.withReplaced`.
Key theorems: `Regex.nextMatch?_progress`, `Regex.isMatch_iff`, `Regex.replaceAll?_eq`,
`Regex.replaceFirst?_eq`.
-/
import StreamEditor.Regex.Basic

namespace StreamEditor
namespace Regex

/-! ### Places ahead -/

namespace Place

theorem skip_after : ∀ (n : Nat) (p : Place), (p.skip n).after = p.after.drop n
  | 0, _ => rfl
  | n + 1, ⟨i, before, []⟩ => by simp [skip]
  | n + 1, ⟨i, before, b :: rest⟩ => by
    rw [skip]
    exact skip_after n _

theorem skip_index : ∀ (n : Nat) (p : Place), (p.skip n).index = p.index + min n p.after.length
  | 0, _ => by simp [skip]
  | n + 1, ⟨i, before, []⟩ => by simp [skip]
  | n + 1, ⟨i, before, b :: rest⟩ => by
    rw [skip, skip_index n]
    simp only [List.length_cons]
    omega

theorem skip_skip : ∀ (m n : Nat) (p : Place), (p.skip m).skip n = p.skip (m + n)
  | 0, n, p => by simp [skip]
  | m + 1, 0, ⟨i, before, []⟩ => by simp [skip]
  | m + 1, n + 1, ⟨i, before, []⟩ => by simp [skip]
  | m + 1, n, ⟨i, before, b :: rest⟩ => by
    rw [Nat.add_right_comm, skip, skip]
    exact skip_skip m n _

/-- A place is ahead of another if some number of bytes leads from that one to it. -/
def Ahead (p q : Place) : Prop := ∃ n, q = p.skip n

theorem Ahead.refl (p : Place) : p.Ahead p := ⟨0, rfl⟩

theorem Ahead.trans {p q r : Place} (h : p.Ahead q) (h' : q.Ahead r) : p.Ahead r := by
  obtain ⟨m, rfl⟩ := h
  obtain ⟨n, rfl⟩ := h'
  exact ⟨m + n, skip_skip m n p⟩

theorem Ahead.index_le {p q : Place} (h : p.Ahead q) : p.index ≤ q.index := by
  obtain ⟨n, rfl⟩ := h
  rw [skip_index]
  omega

/-- What a place has gained on another in bytes passed, it has less in bytes ahead. -/
theorem Ahead.index_add {p q : Place} (h : p.Ahead q) :
    q.index + q.after.length = p.index + p.after.length := by
  obtain ⟨n, rfl⟩ := h
  rw [skip_index, skip_after, List.length_drop]
  omega

theorem advance?_eq {p q : Place} {b : UInt8} (h : p.advance? = some (b, q)) :
    q = p.skip 1 ∧ q.index = p.index + 1 := by
  obtain ⟨i, before, after⟩ := p
  cases after with
  | nil => simp [advance?] at h
  | cons a rest =>
    simp only [advance?, Option.some.injEq, Prod.mk.injEq] at h
    obtain ⟨-, rfl⟩ := h
    exact ⟨rfl, rfl⟩

theorem advance?_ahead {p q : Place} {b : UInt8} (h : p.advance? = some (b, q)) : p.Ahead q :=
  ⟨1, (advance?_eq h).1⟩

theorem advanceChar?_ahead {p q : Place} {code : Nat} (h : p.advanceChar? = some (code, q)) :
    p.Ahead q := by
  unfold advanceChar? at h
  split at h
  · simp only [Option.some.injEq, Prod.mk.injEq] at h
    exact ⟨_, h.2.symm⟩
  · simp at h

/-- A place of a text: the bytes ahead are those of the text behind its index. -/
def Of (text : Bytes) (p : Place) : Prop := p.after = text.drop p.index

theorem start_of (text : Bytes) : (start text).Of text := rfl

theorem Of.ahead {text : Bytes} {p q : Place} (hp : p.Of text) (h : p.Ahead q) : q.Of text := by
  obtain ⟨n, rfl⟩ := h
  unfold Of at *
  rw [skip_after, skip_index, hp, List.drop_drop, List.length_drop]
  by_cases hn : n ≤ text.length - p.index
  · rw [Nat.min_eq_left hn]
  · rw [List.drop_eq_nil_of_le (by omega), List.drop_eq_nil_of_le (by omega)]

end Place

/-! ### Searches go ahead -/

/-- A thread pushed ahead of another one leads no further back than that one. -/
theorem ahead_of_pushed {t u : Thread} {stack : List Thread} {stop : Place}
    (hs : ∃ v ∈ u :: stack, v.place.Ahead stop) (h : t.place.Ahead u.place) :
    ∃ v ∈ t :: stack, v.place.Ahead stop := by
  obtain ⟨v, hv, ha⟩ := hs
  rcases List.mem_cons.mp hv with rfl | hv
  · exact ⟨t, List.mem_cons_self, h.trans ha⟩
  · exact ⟨v, List.mem_cons_of_mem _ hv, ha⟩

/-- A thread that is given up leads nowhere. -/
theorem ahead_of_popped {t : Thread} {stack : List Thread} {stop : Place}
    (hs : ∃ v ∈ stack, v.place.Ahead stop) : ∃ v ∈ t :: stack, v.place.Ahead stop := by
  obtain ⟨v, hv, ha⟩ := hs
  exact ⟨v, List.mem_cons_of_mem _ hv, ha⟩

/-- The place at which a thread accepts is ahead of the place of a thread on the stack. -/
theorem explore_ahead (prog : Program) : ∀ (fuel : Nat) (stack : List Thread) (visited : Visited)
    {stop : Place} {slots : Slots} {visited' : Visited},
    explore prog fuel stack visited = (some (stop, slots), visited') →
    ∃ t ∈ stack, t.place.Ahead stop
  | 0, _, _, _, _, _, h => by simp [explore] at h
  | _ + 1, [], _, _, _, _, h => by simp [explore] at h
  | fuel + 1, t :: stack, visited, stop, slots, visited', h => by
    rw [explore] at h
    split at h
    case h_1 => exact ahead_of_popped (explore_ahead prog fuel _ _ h)
    case h_2 =>
      simp only [Prod.mk.injEq, Option.some.injEq] at h
      exact ⟨t, List.mem_cons_self, h.1.1 ▸ Place.Ahead.refl _⟩
    case h_3 =>
      split at h
      · split at h
        · exact ahead_of_pushed (explore_ahead prog fuel _ _ h)
            (Place.advanceChar?_ahead (by assumption))
        · exact ahead_of_popped (explore_ahead prog fuel _ _ h)
      · exact ahead_of_popped (explore_ahead prog fuel _ _ h)
    case h_4 =>
      split at h
      · split at h
        · exact ahead_of_pushed (explore_ahead prog fuel _ _ h)
            (Place.advance?_ahead (by assumption))
        · exact ahead_of_popped (explore_ahead prog fuel _ _ h)
      · exact ahead_of_popped (explore_ahead prog fuel _ _ h)
    case h_5 =>
      split at h
      · exact ahead_of_pushed (explore_ahead prog fuel _ _ h) (Place.Ahead.refl _)
      · exact ahead_of_popped (explore_ahead prog fuel _ _ h)
    case h_6 => exact ahead_of_pushed (explore_ahead prog fuel _ _ h) (Place.Ahead.refl _)
    case h_7 =>
      simp only at h
      split at h
      · exact ahead_of_popped (explore_ahead prog fuel _ _ h)
      · -- both ways on start where the split stands
        obtain ⟨v, hv, ha⟩ := explore_ahead prog fuel _ _ h
        rcases List.mem_cons.mp hv with rfl | hv
        · exact ⟨t, List.mem_cons_self, ha⟩
        · exact ahead_of_pushed ⟨v, hv, ha⟩ (Place.Ahead.refl _)

namespace Program

theorem searchFrom_ahead (prog : Program) (fuel : Nat) : ∀ (after : Bytes) (index : Nat)
    (before : Bytes) (visited : Visited) {m : Match},
    prog.searchFrom fuel index before after visited = some m →
    Place.Ahead ⟨index, before, after⟩ m.start ∧ m.start.Ahead m.stop
  | after, index, before, visited, m, h => by
    unfold searchFrom at h
    simp only at h
    split at h
    · rename_i stop slots _ he
      obtain ⟨t, ht, ha⟩ := explore_ahead prog fuel _ _ he
      simp only [List.mem_singleton] at ht
      simp only [Option.some.injEq] at h
      subst ht h
      exact ⟨Place.Ahead.refl _, ha⟩
    · split at h
      · simp at h
      · obtain ⟨h1, h2⟩ := searchFrom_ahead prog fuel _ _ _ _ h
        exact ⟨Place.Ahead.trans ⟨1, rfl⟩ h1, h2⟩

/-- **A search goes ahead.** A match starts at the place of the search or after it, and stops at
its start or after it. -/
theorem search_ahead (prog : Program) {p : Place} {m : Match} (h : prog.search p = some m) :
    p.Ahead m.start ∧ m.start.Ahead m.stop :=
  prog.searchFrom_ahead _ _ _ _ _ h

end Program

/-! ### One match after the other -/

theorem nextMatch?_ahead (r : Regex) {p : Place} {last : Option Nat} {m : Match}
    (h : r.nextMatch? p last = some m) : p.Ahead m.start ∧ m.start.Ahead m.stop := by
  unfold nextMatch? at h
  split at h
  · simp at h
  · rename_i m' hs
    split at h
    · split at h
      · simp at h
      · rename_i q hq
        obtain ⟨h1, h2⟩ := r.program.search_ahead h
        exact ⟨(Place.advance?_ahead hq).trans h1, h2⟩
    · simp only [Option.some.injEq] at h
      subst h
      exact r.program.search_ahead hs

/-- **Every match after the first stops further on than the one before it.** -/
theorem nextMatch?_progress (r : Regex) {p : Place} {m : Match}
    (h : r.nextMatch? p (some p.index) = some m) : p.index < m.stop.index := by
  have hle : p.index ≤ m.start.index ∧ m.start.index ≤ m.stop.index :=
    ⟨(r.nextMatch?_ahead h).1.index_le, (r.nextMatch?_ahead h).2.index_le⟩
  unfold nextMatch? at h
  split at h
  · simp at h
  · split at h
    · split at h
      · simp at h
      · -- the empty match at `p` is passed over: the search begins one byte on
        rename_i q hq
        have h1 := (r.program.search_ahead h).1.index_le
        have h2 := (Place.advance?_eq hq).2
        omega
    · rename_i hne
      simp only [Option.some.injEq] at h
      subst h
      simp only [Match.isEmpty, Bool.and_eq_true, beq_iff_eq, Option.some.injEq, not_and] at hne
      omega

/-- The bytes a match passes: at least one if the match before it ended where the search begins. -/
theorem nextMatch?_passed (r : Regex) {p : Place} {last : Option Nat} {m : Match}
    (h : r.nextMatch? p last = some m) :
    m.stop.after.length + (if last = some p.index then 1 else 0) ≤ p.after.length := by
  have ha := (r.nextMatch?_ahead h).1.trans (r.nextMatch?_ahead h).2
  have h1 := ha.index_add
  have h2 := ha.index_le
  split
  · rename_i hl
    subst hl
    have h3 := r.nextMatch?_progress h
    omega
  · omega

/-- The matches from a place on, where `last` is the end of the match before it. -/
def matchesFrom (r : Regex) (p : Place) (last : Option Nat) : List Match :=
  match _h : r.nextMatch? p last with
  | none => []
  | some m => m :: matchesFrom r m.stop (some m.stop.index)
termination_by 2 * p.after.length + (if last = some p.index then 0 else 1)
decreasing_by
  -- the first match may stop where the search began, and any other one stops further on
  have hp := r.nextMatch?_passed _h
  by_cases hl : last = some p.index <;> simp only [hl, ↓reduceIte] at hp ⊢ <;> omega

/-- The matches in a text. -/
def allMatches (r : Regex) (text : Bytes) : List Match :=
  r.matchesFrom (Place.start text) none

theorem matchesFrom_eq_nil {r : Regex} {p : Place} {last : Option Nat}
    (h : r.nextMatch? p last = none) : r.matchesFrom p last = [] := by
  rw [matchesFrom]
  split <;> simp_all

theorem matchesFrom_eq_cons {r : Regex} {p : Place} {last : Option Nat} {m : Match}
    (h : r.nextMatch? p last = some m) :
    r.matchesFrom p last = m :: r.matchesFrom m.stop (some m.stop.index) := by
  rw [matchesFrom]
  split <;> simp_all

/-- There are at most as many matches as places that one can stop at. -/
theorem length_matchesFrom (r : Regex) (p : Place) (last : Option Nat) :
    (r.matchesFrom p last).length ≤ p.after.length + (if last = some p.index then 0 else 1) := by
  induction p, last using matchesFrom.induct r with
  | case1 p last h => simp [matchesFrom_eq_nil h]
  | case2 p last m h ih =>
    have hp := r.nextMatch?_passed h
    rw [matchesFrom_eq_cons h]
    simp only [↓reduceIte, List.length_cons] at ih ⊢
    by_cases hl : last = some p.index <;> simp only [hl, ↓reduceIte] at hp ⊢ <;> omega

theorem length_allMatches (r : Regex) (text : Bytes) :
    (r.allMatches text).length ≤ text.length + 1 := by
  simpa [allMatches, Place.start] using r.length_matchesFrom (Place.start text) none

/-- A text matches if there is a match in it. -/
theorem isMatch_iff (r : Regex) (text : Bytes) : r.isMatch text = !(r.allMatches text).isEmpty := by
  have hnext : r.nextMatch? (Place.start text) none = r.program.search (Place.start text) := by
    unfold nextMatch?
    split <;> simp_all
  unfold isMatch allMatches
  rw [← hnext]
  cases h : r.nextMatch? (Place.start text) none with
  | none => simp [matchesFrom_eq_nil h]
  | some m => simp [matchesFrom_eq_cons h]

/-! ### New text in place of matches -/

/-- The text from index `i` on with new text in place of each of the matches. -/
def splice (text : Bytes) (new : Match → Bytes) : Nat → List Match → Bytes
  | i, [] => text.drop i
  | i, m :: ms =>
    (text.drop i).take (m.start.index - i) ++ (new m ++ splice text new m.stop.index ms)

/-- The text with the template filled in for each of the matches and put in place of it. -/
def withReplaced (r : Regex) (template : String) (text : Bytes) (ms : List Match) : Bytes :=
  splice text (Template.expand r.names (Template.parse template)) 0 ms

/-- A text in which no match is replaced is the text. -/
@[simp]
theorem withReplaced_nil (r : Regex) (template : String) (text : Bytes) :
    r.withReplaced template text [] = text := rfl

theorem replaceFrom_eq_splice (r : Regex) (text : Bytes) (template : List Template.Piece) :
    ∀ (n : Nat) (p : Place) (last : Option Nat), p.Of text →
      r.replaceFrom template n p last =
        splice text (Template.expand r.names template) p.index ((r.matchesFrom p last).take n)
  | 0, p, last, hp => hp
  | n + 1, p, last, hp => by
    rw [replaceFrom]
    cases h : r.nextMatch? p last with
    | none =>
      rw [matchesFrom_eq_nil h]
      exact hp
    | some m =>
      have hstop : m.stop.Of text :=
        hp.ahead ((r.nextMatch?_ahead h).1.trans (r.nextMatch?_ahead h).2)
      rw [matchesFrom_eq_cons h, List.take_succ_cons, splice,
        ← replaceFrom_eq_splice r text template n _ _ hstop, ← hp]

theorem replace?_eq (r : Regex) (template : String) (n : Nat) (text : Bytes) :
    r.replace? template n text =
      if (r.allMatches text).isEmpty then none
      else some (r.withReplaced template text ((r.allMatches text).take n)) := by
  unfold replace?
  rw [isMatch_iff, replaceFrom_eq_splice r text _ _ _ _ (Place.start_of text)]
  cases (r.allMatches text).isEmpty <;> rfl

/-- **All matches are replaced**, however many there are. -/
theorem replaceAll?_eq (r : Regex) (template : String) (text : Bytes) :
    r.replaceAll? template text =
      if (r.allMatches text).isEmpty then none
      else some (r.withReplaced template text (r.allMatches text)) := by
  rw [replaceAll?, replace?_eq, List.take_of_length_le (r.length_allMatches text)]

/-- **The first match is replaced.** -/
theorem replaceFirst?_eq (r : Regex) (template : String) (text : Bytes) :
    r.replaceFirst? template text =
      if (r.allMatches text).isEmpty then none
      else some (r.withReplaced template text ((r.allMatches text).take 1)) :=
  r.replace?_eq template 1 text

end Regex
end StreamEditor
