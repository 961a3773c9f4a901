/-
# The directory part of a path

A path that does not end in a slash is the path of a directory and a last name: the names of the
one, followed by the other, are the names of the path (`names_eq`).

Key theorem: `Path.names_eq`.
-/
import StreamEditor.Files.Path

namespace StreamEditor
namespace Path

/-- A slash parts names. -/
theorem namesFrom_append_slash : ∀ (xs ys name : Bytes),
    namesFrom name (xs ++ slash :: ys) = namesFrom name xs ++ namesFrom [] ys
  | [], ys, name => by
    rw [List.nil_append, namesFrom, namesFrom]
    by_cases h : name.isEmpty = true <;> simp [h]
  | b :: xs, ys, name => by
    rw [List.cons_append, namesFrom, namesFrom]
    have hrest := namesFrom_append_slash xs ys
    by_cases hb : (b == slash) = true
    · rw [if_pos hb, if_pos hb]
      by_cases h : name.isEmpty = true <;> simp [h, hrest]
    · rw [if_neg hb, if_neg hb, hrest]

theorem namesFrom_of_noSlash : ∀ {xs : Bytes}, slash ∉ xs → ∀ name : Bytes,
    namesFrom name xs = if (xs.reverse ++ name).isEmpty then [] else [name.reverse ++ xs]
  | [], _, name => by simp [namesFrom]
  | b :: xs, h, name => by
    have hb : ¬ (b == slash) = true := fun hb => h (by simp [beq_iff_eq.mp hb])
    rw [namesFrom, if_neg hb, namesFrom_of_noSlash fun hx => h (List.mem_cons_of_mem _ hx)]
    simp

theorem namesFrom_slashes : ∀ n : Nat, namesFrom [] (List.replicate n slash) = []
  | 0 => rfl
  | n + 1 => by
    rw [List.replicate_succ, namesFrom]
    simpa using namesFrom_slashes n

theorem namesFrom_append_slashes (xs : Bytes) (n : Nat) :
    namesFrom [] (xs ++ List.replicate n slash) = namesFrom [] xs := by
  cases n with
  | zero => simp
  | succ n =>
    rw [List.replicate_succ, namesFrom_append_slash, namesFrom_slashes, List.append_nil]

/-- A path is what it is without the slashes at its end, and these. -/
theorem eq_append_slashes (p : Path) : ∃ n,
    p = (p.reverse.dropWhile (· == slash)).reverse ++ List.replicate n slash := by
  have hall : ∀ b ∈ p.reverse.takeWhile (· == slash), b = slash := fun b hb =>
    beq_iff_eq.mp (List.all_eq_true.mp List.all_takeWhile b hb)
  have hslashes := List.eq_replicate_of_mem hall
  refine ⟨(p.reverse.takeWhile (· == slash)).length, ?_⟩
  have hwhole := congrArg List.reverse (List.takeWhile_append_dropWhile (p := (· == slash))
    (l := p.reverse))
  rw [List.reverse_append, List.reverse_reverse, hslashes, List.reverse_replicate] at hwhole
  exact hwhole.symm

theorem namesFrom_trimmed (p : Path) : namesFrom [] (trimmed p) = namesFrom [] p := by
  obtain ⟨n, hp⟩ := eq_append_slashes p
  unfold trimmed
  cases hq : (p.reverse.dropWhile (· == slash)).reverse with
  | nil =>
    rw [hq, List.nil_append] at hp
    simp only
    rw [hp, List.take_replicate, namesFrom_slashes, namesFrom_slashes]
  | cons b q =>
    rw [hq] at hp
    simp only
    rw [hp, namesFrom_append_slashes]

/-- A path without the slashes at its end is a beginning of it. -/
theorem trimmed_prefix (p : Path) : trimmed p <+: p := by
  obtain ⟨n, hp⟩ := eq_append_slashes p
  unfold trimmed
  cases hq : (p.reverse.dropWhile (· == slash)).reverse with
  | nil => exact List.take_prefix 1 p
  | cons b q =>
    rw [hq] at hp
    exact ⟨_, hp.symm⟩

theorem trimmed_ne_nil {p : Path} (h : p ≠ []) : trimmed p ≠ [] := by
  unfold trimmed
  cases (p.reverse.dropWhile (· == slash)).reverse with
  | nil => cases p with
    | nil => exact absurd rfl h
    | cons => simp
  | cons => simp

theorem trimmed_of_noSlash {p : Path} (h : endsWithSlash p = false) : trimmed p = p := by
  have hlast : p.reverse.dropWhile (· == slash) = p.reverse := by
    cases hr : p.reverse with
    | nil => rfl
    | cons b rest =>
      have hb : ¬ (b == slash) = true := by
        rw [endsWithSlash, ← List.head?_reverse, hr] at h
        simpa using h
      exact List.dropWhile_cons_of_neg (p := (· == slash)) hb
  unfold trimmed
  rw [hlast, List.reverse_reverse]
  cases p <;> rfl

/-- A path that does not end in a slash is what stands up to its last slash, and a name behind
it. -/
theorem eq_up_append (p : Path) : ∃ last : Name,
    p = (p.reverse.dropWhile (· != slash)).reverse ++ last ∧ slash ∉ last := by
  refine ⟨(p.reverse.takeWhile (· != slash)).reverse, ?_, ?_⟩
  · rw [← List.reverse_append, List.takeWhile_append_dropWhile, List.reverse_reverse]
  · intro hmem
    have := List.all_eq_true.mp (List.all_takeWhile (p := (· != slash)) (l := p.reverse)) slash
      (List.mem_reverse.mp hmem)
    simp at this

/-- What stands up to the last slash is empty or ends in one. -/
theorem up_eq (p : Path) : (p.reverse.dropWhile (· != slash)).reverse = [] ∨
    ∃ up, (p.reverse.dropWhile (· != slash)).reverse = up ++ [slash] := by
  cases h : p.reverse.dropWhile (· != slash) with
  | nil => exact .inl rfl
  | cons b rest =>
    have hb : ¬ (b != slash) = true := by
      have := List.head_dropWhile_not (p := (· != slash)) (l := p.reverse) (by simp [h])
      simpa [h] using this
    have hb' : b = slash := by simpa using hb
    exact .inr ⟨rest.reverse, by rw [List.reverse_cons, hb']⟩

theorem isAbsolute_of_prefix {p q : Path} (h : q <+: p) (hq : q ≠ []) :
    isAbsolute q = isAbsolute p := by
  obtain ⟨rest, rfl⟩ := h
  cases q with
  | nil => exact absurd rfl hq
  | cons => rfl

/-- **The names of a path** that does not end in a slash are those of the path of its directory, and
one more. Both paths start from the same spot, unless that of the directory is empty. -/
theorem names_eq {p : Path} (hp : p ≠ []) (hslash : endsWithSlash p = false) : ∃ last : Name,
    namesFrom [] p = namesFrom [] (parent p) ++ [last] ∧ parent p <+: p ∧
      (parent p = [] → isAbsolute p = false) ∧
      (parent p ≠ [] → isAbsolute (parent p) = isAbsolute p) := by
  obtain ⟨last, hwhole, hlast⟩ := eq_up_append p
  have hparent : parent p = if (p.reverse.dropWhile (· != slash)).reverse.isEmpty then []
      else trimmed (p.reverse.dropWhile (· != slash)).reverse := by
    unfold parent
    rw [trimmed_of_noSlash hslash]
  have hne : last ≠ [] := by
    rintro rfl
    rw [List.append_nil] at hwhole
    rcases up_eq p with hup | ⟨up, hup⟩
    · exact hp (hwhole.trans hup)
    · rw [hwhole, hup, endsWithSlash] at hslash
      simp at hslash
  have hname : namesFrom [] last = [last] := by
    rw [namesFrom_of_noSlash hlast]
    simp [hne]
  rcases up_eq p with hup | ⟨up, hup⟩
  · rw [hup] at hwhole hparent
    rw [List.isEmpty_nil, if_pos rfl] at hparent
    rw [List.nil_append] at hwhole
    refine ⟨last, ?_, by simp [hparent], fun _ => ?_, fun h => absurd hparent h⟩
    · rw [hparent, hwhole, hname]
      rfl
    · rw [hwhole, isAbsolute]
      cases last with
      | nil => rfl
      | cons b rest =>
        have hb : b ≠ slash := fun hb => hlast (by simp [hb])
        simpa using hb
  · rw [hup] at hwhole hparent
    rw [if_neg (by simp)] at hparent
    have hpre : parent p <+: up ++ [slash] := hparent ▸ trimmed_prefix _
    have hnonempty : parent p ≠ [] := hparent ▸ trimmed_ne_nil (by simp)
    have hprefix : parent p <+: p := hpre.trans ⟨last, hwhole.symm⟩
    refine ⟨last, ?_, hprefix, fun h => absurd h hnonempty, fun _ => ?_⟩
    · rw [hparent, namesFrom_trimmed, hwhole, List.append_assoc, List.singleton_append,
        namesFrom_append_slash, hname, namesFrom_append_slash]
      simp [namesFrom]
    · exact isAbsolute_of_prefix hprefix hnonempty

end Path
end StreamEditor
