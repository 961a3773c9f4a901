/-
# Patterns of a single ASCII character

A pattern that is one ASCII character matches just where the byte of that character stands, also in
texts that are not UTF-8: such a byte begins no longer character and stands inside none
(`Place.advanceChar?_ascii`). So the first match is at the first of these bytes, and to replace all
matches by a fixed text is to replace each of the bytes by it (`splice_ofByte`).

Key definition: `Regex.Program.ofByte`.
Key theorems: `Regex.search_ofByte`, `Regex.splice_ofByte`.
-/
import StreamEditor.Proofs.Regex.Matches
import StreamEditor.Proofs.Text.Utf8

namespace StreamEditor
namespace Regex

/-- The program of a pattern that is one character. -/
def Program.ofByte (b : UInt8) : Program := .ofExpr (.chars ⟨[⟨b.toNat, b.toNat⟩]⟩)

variable {b : UInt8}

/-- A character is read at a place, and it is the ASCII character with byte `b`, if just this byte
stands there. -/
theorem Place.advanceChar?_ascii (hb : b < 0x80) (p q : Place) :
    p.advanceChar? = some (b.toNat, q) ↔ p.after.head? = some b ∧ q = p.skip 1 := by
  have hb' : b.toNat < 128 := UInt8.lt_iff_toNat_lt.mp hb
  unfold advanceChar?
  cases hafter : p.after with
  | nil => simp [Utf8.head]
  | cons a rest =>
    constructor
    · intro h
      split at h
      · next code size hhead =>
        simp only [Option.some.injEq, Prod.mk.injEq] at h
        obtain ⟨rfl, rfl⟩ := h
        obtain ⟨ha, rfl⟩ := Utf8.head_cons_ascii hhead hb'
        exact ⟨congrArg some (UInt8.toNat_inj.mp ha), rfl⟩
      · cases h
    · rintro ⟨ha, rfl⟩
      obtain rfl := Option.some.inj ha
      rw [Utf8.head, if_pos hb]

/-- Where no character is read a thread that reads one ends. -/
theorem explore_char_none {prog : Program} {t : Thread} {set : CodeSet} {next : Nat}
    (hinst : prog.insts[t.inst]? = some (.char set next)) (hc : t.place.advanceChar? = none)
    (fuel : Nat) (stack : List Thread) (visited : Visited) :
    explore prog (fuel + 1) (t :: stack) visited = explore prog fuel stack visited := by
  simp only [explore, hinst, hc]

theorem explore_char_some {prog : Program} {t : Thread} {set : CodeSet} {next code : Nat} {q : Place}
    (hinst : prog.insts[t.inst]? = some (.char set next))
    (hc : t.place.advanceChar? = some (code, q)) (fuel : Nat) (stack : List Thread)
    (visited : Visited) :
    explore prog (fuel + 1) (t :: stack) visited =
      if set.mem code then explore prog fuel (⟨next, q, t.slots⟩ :: stack) visited
      else explore prog fuel stack visited := by
  simp only [explore, hinst, hc]

/-- Where the byte stands the program accepts behind it, and nowhere else. -/
theorem explore_ofByte (hb : b < 0x80) (fuel : Nat) (p : Place) (visited : Visited) :
    explore (.ofByte b) (fuel + 3) [⟨(Program.ofByte b).entry, p, []⟩] visited =
      (if p.after.head? = some b then some (p.skip 1, []) else none, visited) := by
  have hinst : (Program.ofByte b).insts[(Program.ofByte b).entry]? =
    some (.char ⟨[⟨b.toNat, b.toNat⟩]⟩ 0) := rfl
  have hmem : ∀ code, CodeSet.mem ⟨[⟨b.toNat, b.toNat⟩]⟩ code = true ↔ code = b.toNat := by
    intro code
    simp [CodeSet.mem, Interval.mem]
    omega
  by_cases hhead : p.after.head? = some b
  · have hc := (Place.advanceChar?_ascii hb p _).mpr ⟨hhead, rfl⟩
    rw [explore_char_some hinst hc, if_pos ((hmem _).mpr rfl), if_pos hhead]
    rfl
  · rw [if_neg hhead]
    cases hc : p.advanceChar? with
    | none =>
      rw [explore_char_none hinst hc]
      rfl
    | some next =>
      obtain ⟨code, q⟩ := next
      have hne : ¬ CodeSet.mem ⟨[⟨b.toNat, b.toNat⟩]⟩ code = true := fun hm =>
        hhead ((Place.advanceChar?_ascii hb p q).mp ((hmem code).mp hm ▸ hc)).1
      rw [explore_char_some hinst hc, if_neg hne]
      rfl

/-- A search goes one byte on from a place at which the program does not accept. -/
theorem Program.searchFrom_cons (prog : Program) {fuel index : Nat} {before after : Bytes}
    {a : UInt8} {visited : Visited}
    (h : explore prog fuel [⟨prog.entry, ⟨index, before, a :: after⟩, []⟩] visited =
      (none, visited)) :
    prog.searchFrom fuel index before (a :: after) visited =
      prog.searchFrom fuel (index + 1) (a :: before) after visited := by
  rw [searchFrom]
  simp only [h]

/-- **The first match is at the first such byte**: past `body`, in which the byte does not
occur. -/
theorem searchFrom_ofByte (hb : b < 0x80) (fuel : Nat) (rest : Bytes) (visited : Visited) :
    ∀ (body : Bytes) (index : Nat) (before : Bytes), b ∉ body →
      (Program.ofByte b).searchFrom (fuel + 3) index before (body ++ b :: rest) visited =
        some ⟨Place.skip body.length ⟨index, before, body ++ b :: rest⟩,
          Place.skip (body.length + 1) ⟨index, before, body ++ b :: rest⟩, []⟩
  | [], index, before, _ => by
    have h := explore_ofByte hb fuel ⟨index, before, b :: rest⟩ visited
    rw [if_pos List.head?_cons] at h
    unfold Program.searchFrom
    simp only [List.nil_append, h]
    rfl
  | a :: body, index, before, hbody => by
    have hne : ¬ (a :: (body ++ b :: rest)).head? = some b := fun h =>
      hbody (by simp [Option.some.inj h])
    have h := explore_ofByte hb fuel ⟨index, before, a :: (body ++ b :: rest)⟩ visited
    rw [if_neg hne] at h
    exact (Program.searchFrom_cons _ h).trans (searchFrom_ofByte hb fuel rest visited body (index + 1)
      (a :: before) fun h => hbody (List.mem_cons_of_mem _ h))

/-- There is no match where the byte does not occur. -/
theorem searchFrom_ofByte_none (hb : b < 0x80) (fuel : Nat) (visited : Visited) :
    ∀ (after : Bytes) (index : Nat) (before : Bytes), b ∉ after →
      (Program.ofByte b).searchFrom (fuel + 3) index before after visited = none
  | [], index, before, _ => by
    have h := explore_ofByte hb fuel ⟨index, before, []⟩ visited
    rw [if_neg (by simp)] at h
    unfold Program.searchFrom
    simp only [h]
  | a :: after, index, before, hafter => by
    have hne : ¬ (a :: after).head? = some b := fun h => hafter (by simp [Option.some.inj h])
    have h := explore_ofByte hb fuel ⟨index, before, a :: after⟩ visited
    rw [if_neg hne] at h
    exact (Program.searchFrom_cons _ h).trans (searchFrom_ofByte_none hb fuel visited after (index + 1)
      (a :: before) fun h => hafter (List.mem_cons_of_mem _ h))

theorem steps_ofByte (b : UInt8) (size : Nat) : ∃ fuel, (Program.ofByte b).steps size = fuel + 3 :=
  ⟨(2 * 2 * (size + 1)) * 3, by
    change (2 * 2 * (size + 1) + 1) * (2 + 1) = _
    omega⟩

/-- A search for the byte finds it where it occurs first, -/
theorem search_ofByte (hb : b < 0x80) {p : Place} {body rest : Bytes} (hbody : b ∉ body)
    (hp : p.after = body ++ b :: rest) :
    (Program.ofByte b).search p = some ⟨p.skip body.length, p.skip (body.length + 1), []⟩ := by
  obtain ⟨index, before, after⟩ := p
  obtain rfl : after = body ++ b :: rest := hp
  obtain ⟨fuel, hfuel⟩ := steps_ofByte b (body ++ b :: rest).length
  rw [Program.search, hfuel]
  exact searchFrom_ofByte hb fuel rest ∅ body index before hbody

/-- and fails where it does not occur. -/
theorem search_ofByte_none (hb : b < 0x80) {p : Place} (hp : b ∉ p.after) :
    (Program.ofByte b).search p = none := by
  obtain ⟨fuel, hfuel⟩ := steps_ofByte b p.after.length
  rw [Program.search, hfuel]
  exact searchFrom_ofByte_none hb fuel ∅ p.after p.index p.before hp

/-! ### The byte replaced -/

/-- Bytes among which one does not occur stay when it is replaced. -/
theorem flatMap_of_not_mem {new : Bytes} : ∀ {bytes : Bytes}, b ∉ bytes →
    (bytes.flatMap fun a => if a = b then new else [a]) = bytes
  | [], _ => rfl
  | a :: bytes, h => by
    have hne : a ≠ b := fun ha => h (ha ▸ List.mem_cons_self)
    have ih : (bytes.flatMap fun a => if a = b then new else [a]) = bytes :=
      flatMap_of_not_mem fun hb => h (List.mem_cons_of_mem a hb)
    rw [List.flatMap_cons, ih, if_neg hne, List.singleton_append]

variable {r : Regex} (hr : r.program = .ofByte b) (hb : b < 0x80)

include hr hb

/-- The pattern matches a text if the byte occurs in it. -/
theorem isMatch_ofByte (text : Bytes) : r.isMatch text = decide (b ∈ text) := by
  rw [isMatch, hr]
  by_cases hmem : b ∈ text
  · obtain ⟨body, rest, rfl, hbody⟩ := List.eq_append_cons_of_mem hmem
    rw [search_ofByte (p := Place.start (body ++ b :: rest)) hb hbody rfl, Option.isSome_some,
      decide_eq_true hmem]
  · rw [search_ofByte_none (p := Place.start text) hb hmem, Option.isSome_none,
      decide_eq_false hmem]

/-- No match is empty, so none is passed over. -/
theorem nextMatch?_ofByte (p : Place) (last : Option Nat) :
    r.nextMatch? p last = (Program.ofByte b).search p := by
  rw [nextMatch?, hr]
  by_cases hmem : b ∈ p.after
  · obtain ⟨body, rest, hafter, hbody⟩ := List.eq_append_cons_of_mem hmem
    have hlength : p.after.length = body.length + (rest.length + 1) := by simp [hafter]
    have hne : (p.skip body.length).index ≠ (p.skip (body.length + 1)).index := by
      rw [Place.skip_index, Place.skip_index]
      omega
    rw [search_ofByte hb hbody hafter]
    simp [Match.isEmpty, hne]
  · rw [search_ofByte_none hb hmem]

/-- **To replace all matches by a fixed text is to replace each of the bytes by it.** -/
theorem splice_ofByte {text new : Bytes} (p : Place) (last : Option Nat) (hp : p.Of text) :
    splice text (fun _ => new) p.index (r.matchesFrom p last) =
      p.after.flatMap fun a => if a = b then new else [a] := by
  induction p, last using matchesFrom.induct r with
  | case1 p last hnone =>
    have hafter : b ∉ p.after := by
      intro hmem
      obtain ⟨body, rest, hafter, hbody⟩ := List.eq_append_cons_of_mem hmem
      rw [nextMatch?_ofByte hr hb, search_ofByte hb hbody hafter] at hnone
      cases hnone
    rw [matchesFrom_eq_nil hnone, flatMap_of_not_mem hafter]
    exact hp.symm
  | case2 p last m hnext ih =>
    have hmem : b ∈ p.after := by
      refine Decidable.byContradiction fun hmem => ?_
      rw [nextMatch?_ofByte hr hb, search_ofByte_none hb hmem] at hnext
      cases hnext
    obtain ⟨body, rest, hafter, hbody⟩ := List.eq_append_cons_of_mem hmem
    obtain rfl : m = ⟨p.skip body.length, p.skip (body.length + 1), []⟩ := by
      rw [nextMatch?_ofByte hr hb, search_ofByte hb hbody hafter] at hnext
      exact (Option.some.inj hnext).symm
    have hstart : (p.skip body.length).index - p.index = body.length := by
      rw [Place.skip_index, hafter, List.length_append]
      omega
    have hstop : (p.skip (body.length + 1)).after = rest := by
      rw [Place.skip_after, hafter, List.drop_append]
      simp
    rw [matchesFrom_eq_cons hnext, splice, ih (hp.ahead ⟨_, rfl⟩), hstop, hstart, ← hp, hafter,
      List.take_left, List.flatMap_append, List.flatMap_cons, if_pos rfl,
      flatMap_of_not_mem hbody]

end Regex
end StreamEditor
