/-
# Replacements that change nothing

If every match is replaced by its own text, the text stays what it is, however many of the matches
are replaced (`splice_own`). The empty pattern is such a case, with nothing in place of its matches:
it matches at every place and nowhere more than empty text (`search_ofEmpty`), also inside a
character and between bytes that make none.

Key definition: `Regex.ofEmpty`.
Key theorems: `Regex.splice_own`, `Regex.withReplaced_ofEmpty`.
-/
import StreamEditor.Proofs.Regex.Matches
import StreamEditor.Regex.Diagnosis

namespace StreamEditor
namespace Regex

/-- The bytes ahead of a place are those up to a place ahead of it, and those ahead of that. -/
theorem Place.Ahead.after_eq {p q : Place} (h : p.Ahead q) :
    p.after.take (q.index - p.index) ++ q.after = p.after := by
  obtain ⟨n, rfl⟩ := h
  have hpassed : (p.skip n).index - p.index = min n p.after.length := by
    rw [Place.skip_index]
    omega
  rw [hpassed, Place.skip_after]
  rcases Nat.le_total n p.after.length with hn | hn
  · rw [Nat.min_eq_left hn, List.take_append_drop]
  · rw [Nat.min_eq_right hn, List.take_length, List.drop_eq_nil_of_le hn, List.append_nil]

/-- Every match comes from a search. -/
theorem search_of_nextMatch? {r : Regex} {p : Place} {last : Option Nat} {m : Match}
    (h : r.nextMatch? p last = some m) : ∃ q, r.program.search q = some m := by
  unfold nextMatch? at h
  split at h
  · cases h
  · next hs =>
    split at h
    · split at h
      · cases h
      · exact ⟨_, h⟩
    · cases h
      exact ⟨p, hs⟩

/-- **Matches replaced by their own texts leave the text as it is**, whether all of them are
replaced or the first `n` alone. -/
theorem splice_own (r : Regex) {text : Bytes} {new : Match → Bytes}
    (hown : ∀ q m, r.program.search q = some m → new m = m.text) :
    ∀ (n : Nat) (p : Place) (last : Option Nat), p.Of text →
      splice text new p.index ((r.matchesFrom p last).take n) = p.after
  | 0, p, last, hp => hp.symm
  | n + 1, p, last, hp => by
    cases hnext : r.nextMatch? p last with
    | none =>
      rw [matchesFrom_eq_nil hnext]
      exact hp.symm
    | some m =>
      obtain ⟨hstart, hstop⟩ := r.nextMatch?_ahead hnext
      obtain ⟨q, hsearch⟩ := search_of_nextMatch? hnext
      have ih := splice_own r hown n m.stop (some m.stop.index) (hp.ahead (hstart.trans hstop))
      rw [matchesFrom_eq_cons hnext, List.take_succ_cons, splice, ih, hown q m hsearch, Match.text,
        hstop.after_eq, ← hp, hstart.after_eq]

/-! ### The empty pattern -/

/-- The empty pattern. -/
def ofEmpty : Regex := ⟨"", false, .ofExpr .empty, []⟩

theorem compilePattern_ofEmpty : compilePattern "" false = .ok ofEmpty := rfl

/-- The empty pattern matches empty text where it is searched for. -/
theorem search_ofEmpty (p : Place) : ofEmpty.program.search p = some ⟨p, p, []⟩ := by
  have hsteps : ofEmpty.program.steps p.after.length ≠ 0 :=
    Nat.mul_ne_zero (Nat.succ_ne_zero _) (Nat.succ_ne_zero _)
  obtain ⟨fuel, hfuel⟩ := Nat.exists_eq_succ_of_ne_zero hsteps
  unfold Program.search
  rw [hfuel]
  unfold Program.searchFrom
  rfl

/-- It matches in every text, -/
theorem allMatches_ofEmpty (text : Bytes) : (ofEmpty.allMatches text).isEmpty = false := by
  have hmatch : ofEmpty.isMatch text = true := by
    rw [isMatch, search_ofEmpty, Option.isSome_some]
  rw [isMatch_iff] at hmatch
  simpa using hmatch

/-- **and with nothing in place of its matches a text stays as it is.** -/
theorem withReplaced_ofEmpty (text : Bytes) (n : Nat) :
    ofEmpty.withReplaced "" text ((ofEmpty.allMatches text).take n) = text := by
  refine splice_own ofEmpty (fun q m hm => ?_) n (Place.start text) none (Place.start_of text)
  have hempty : m = ⟨q, q, []⟩ := by
    rw [search_ofEmpty] at hm
    exact (Option.some.inj hm).symm
  rw [hempty, Match.text, Nat.sub_self, List.take_zero]
  rfl

end Regex
end StreamEditor
