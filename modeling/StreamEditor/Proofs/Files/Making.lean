/-
# What is made in a directory

A directory that is made under a name in another stands there, and nothing else of the tree changes
(`makeDirectories_join`). A file that is opened in it to write behind its end stands in it
(`openEnd_join`), unless a link leads elsewhere.

Key theorems: `Tree.makeDirectories_join`, `Tree.openEnd_join`.
-/
import StreamEditor.Proofs.Files.Growth

namespace StreamEditor

/-! ### Paths of entries -/

namespace Path

/-- A name that stands for an entry of its own. -/
structure Plain (name : Name) : Prop where
  noSlash : slash ∉ name
  nonempty : name ≠ []
  other : name ≠ dot ∧ name ≠ dotDot
  short : name.length ≤ Tree.maxName

variable {directory : Path} {name : Name}

/-- The names of the path of an entry are those of its directory, and one more. -/
theorem namesFrom_join (directory : Path) (h : Plain name) :
    namesFrom [] (join directory name) = namesFrom [] directory ++ [name] := by
  have hname : namesFrom [] name = [name] := by
    rw [namesFrom_of_noSlash h.noSlash]
    simp [h.nonempty]
  unfold join
  split
  · next hjoin =>
    rw [Bool.or_eq_true] at hjoin
    cases hjoin with
    | inl hempty =>
      obtain rfl := List.isEmpty_iff.mp hempty
      rw [List.nil_append, hname]
      rfl
    | inr hslash =>
      obtain ⟨up, rfl⟩ := List.getLast?_eq_some_iff.mp (beq_iff_eq.mp hslash)
      rw [List.append_assoc, List.singleton_append, namesFrom_append_slash, hname,
        namesFrom_append_slash]
      simp [namesFrom]
  · rw [namesFrom_append_slash, hname]

theorem endsWithSlash_join (directory : Path) (h : Plain name) :
    endsWithSlash (join directory name) = false := by
  have hlast : ∀ before : Path, (before ++ name).getLast? ≠ some slash := by
    intro before hslash
    rw [List.getLast?_append, List.getLast?_eq_some_getLast h.nonempty, Option.some_or] at hslash
    exact h.noSlash (Option.some.inj hslash ▸ List.getLast_mem h.nonempty)
  rw [endsWithSlash, beq_eq_false_iff_ne]
  unfold join
  split
  · exact hlast directory
  · rw [List.append_cons]
    exact hlast _

theorem directory_prefix_join (directory : Path) (name : Name) :
    directory <+: join directory name := by
  unfold join
  split <;> exact List.prefix_append _ _

end Path

namespace Tree

variable {t t' : Tree} {home : Path} {here : Location} {name : Name}

/-! ### Following the path of an entry -/

theorem exists_follow (t : Tree) (making : Bool) (n : Nat) :
    ∃ follow, walkLinks t making n = walk t follow making := by
  cases n <;> exact ⟨_, rfl⟩

/-- A walk goes on from where its first names lead, with the links that are left. -/
theorem walkLinks_append {making : Bool} {k : Nat} {spot mid : Spot} {names names' : List Name}
    (h : Leads t k spot names mid) : ∀ {n : Nat}, k ≤ n →
      walkLinks t making n spot (names ++ names') = walkLinks t making (n - k) mid names' := by
  induction h with
  | stay => exact fun _ => rfl
  | @above _ name _ _ hname _ ih =>
    intro n hk
    have htest : (name == Path.dot || name == Path.dotDot) = true := by
      simpa [beq_iff_eq] using hname
    obtain ⟨follow, hfollow⟩ := exists_follow t making n
    rw [← ih hk, hfollow, List.cons_append, walk, if_pos htest]
  | dot hdir _ ih =>
    intro n hk
    obtain ⟨follow, hfollow⟩ := exists_follow t making n
    rw [← ih hk, hfollow, List.cons_append, walk, hdir]
    simp only [beq_self_eq_true, ↓reduceIte]
  | dotDot hdir _ ih =>
    intro n hk
    obtain ⟨follow, hfollow⟩ := exists_follow t making n
    rw [← ih hk, hfollow, List.cons_append, walk, hdir]
    rfl
  | @enter _ l name ns e r hdir hdot hup hshort hentry hplain _ ih =>
    intro n hk
    obtain ⟨follow, hfollow⟩ := exists_follow t making n
    rw [← ih hk, hfollow, List.cons_append, walk, hdir]
    simp only [beq_iff_eq, hdot, hup, Nat.not_lt.mpr hshort, ↓reduceIte, hentry]
  | link hdir hdot hup hshort hentry _ ih =>
    intro n hk
    obtain ⟨m, rfl⟩ : ∃ m, n = m + 1 := ⟨n - 1, by omega⟩
    have hrest := ih (Nat.le_of_succ_le_succ hk)
    rw [Nat.add_sub_add_right, ← hrest, walkLinks, List.cons_append, walk, hdir]
    simp only [beq_iff_eq, hdot, hup, Nat.not_lt.mpr hshort, ↓reduceIte, hentry,
      List.append_assoc]

/-- A step into a directory, under a name that no link stands under. -/
theorem walk_name {follow : Spot → List Name → Except SystemError Spot} {making : Bool}
    {names : List Name} {r : Spot} (hname : Path.Plain name)
    (hlink : ∀ target, t.get? (here ++ [name]) ≠ some (.link target))
    (h : walk t follow making (.below here) (name :: names) = .ok r) :
    walk t follow making (.below (here ++ [name])) names = .ok r ∨
      (names = [] ∧ r = .below (here ++ [name])) := by
  rw [walk] at h
  split at h
  case h_2 => cases h
  simp only [beq_iff_eq, hname.other.1, hname.other.2, Nat.not_lt.mpr hname.short,
    ↓reduceIte] at h
  cases hentry : t.get? (here ++ [name]) with
  | none =>
    rw [hentry] at h
    simp only at h
    split at h
    · next hmaking =>
      rw [Bool.and_eq_true, List.isEmpty_iff] at hmaking
      cases h
      exact .inr ⟨hmaking.2, rfl⟩
    · cases h
  | some e =>
    rw [hentry] at h
    cases e with
    | link target => exact absurd hentry (hlink target)
    | file data mode => exact .inl h
    | directory => exact .inl h

/-! ### A directory in another -/

/-- A path leads to a directory: where it leads, the names before any slash at its end lead. -/
theorem leads_of_resolve (h : t.resolve false home = .ok (.below here)) :
    pathFault? home = none ∧ ∃ k, k ≤ maxLinks ∧
      Leads t k (base home (.below [])) (Path.namesFrom [] home) (.below here) := by
  obtain ⟨hfault, k, hk, hleads⟩ := resolve_iff.mp h
  refine ⟨hfault, ?_⟩
  rw [Path.names] at hleads
  split at hleads
  · obtain ⟨k₁, k₂, mid, hsum, hfirst, hlast⟩ := hleads.split _ _ rfl
    cases hlast with
    | above _ hrest => cases hrest
    | dot _ hrest =>
      cases hrest
      exact ⟨k₁, by omega, hfirst⟩
    | enter _ hdot => exact absurd rfl hdot
    | link _ hdot => exact absurd rfl hdot
  · rw [List.append_nil] at hleads
    exact ⟨k, hk, hleads⟩

theorem ne_nil_of_pathFault? {p : Path} (h : pathFault? p = none) : p ≠ [] := by
  rintro rfl
  exact absurd h (by decide)

theorem base_join (h : home ≠ []) (name : Name) (spot : Spot) :
    base (Path.join home name) spot = base home spot := by
  rw [base, base, Path.isAbsolute_of_prefix (Path.directory_prefix_join home name) h]

/-- The path of an entry is held by the directory that the path of that leads to. -/
theorem holder_join (hhome : t.resolve false home = .ok (.below here)) (hname : Path.Plain name) :
    t.holder (Path.join home name) = match pathFault? (Path.join home name) with
      | some fault => .error fault
      | none => .ok (.below here, name) := by
  obtain ⟨hfault, k, hk, hleads⟩ := leads_of_resolve hhome
  have hnames := Path.namesFrom_join home hname
  have hlast : (Path.namesFrom [] (Path.join home name)).getLast? = some name := by
    rw [hnames, List.getLast?_concat]
  cases hjoin : pathFault? (Path.join home name) with
  | some fault => rw [holder, hjoin, hlast]
  | none =>
    refine holder_eq hjoin hlast hk ?_
    rwa [hnames, List.dropLast_concat, base_join (ne_nil_of_pathFault? hfault)]

/-- What is wrong with a path of at least one byte is not that nothing is there. -/
theorem kind_of_pathFault? {p : Path} {fault : SystemError} (hp : p ≠ [])
    (h : pathFault? p = some fault) : (fault.kind == .notFound) = false := by
  rw [pathFault?, List.isEmpty_eq_false_iff.mpr hp] at h
  split at h
  · cases h
    rfl
  · simp only [Bool.false_eq_true, ↓reduceIte] at h
    split at h <;> cases h
    rfl

/-- **Making a directory in another** changes nothing else, and nothing at all if it is there. -/
theorem makeDirectories_join (hhome : t.resolve false home = .ok (.below here))
    (hinside : t.get? here = some .directory) (hname : Path.Plain name)
    (h : t.makeDirectories (Path.join home name) = .ok t') :
    t' = t ∨ t' = t.put (here ++ [name]) .directory := by
  have hfault := (leads_of_resolve hhome).1
  have hne : Path.join home name ≠ [] := fun hnil =>
    ne_nil_of_pathFault? hfault (List.prefix_nil.mp (hnil ▸ Path.directory_prefix_join home name))
  unfold makeDirectories makeDirectoriesFrom at h
  simp only [List.isEmpty_eq_false_iff.mpr hne, Bool.false_eq_true, ↓reduceIte] at h
  have hholder := holder_join hhome hname
  cases hmake : t.makeDirectory (Path.join home name) with
  | ok made =>
    rw [hmake] at h
    cases h
    obtain ⟨l', name', hheld, -, rfl⟩ := eq_put_of_makeDirectory hmake
    rw [hheld] at hholder
    split at hholder <;> cases hholder
    exact .inr rfl
  | error e =>
    have hkind : (e.kind == .notFound) = false := by
      rw [makeDirectory, hholder] at hmake
      cases hjoin : pathFault? (Path.join home name) with
      | some fault =>
        rw [hjoin] at hmake
        cases hmake
        exact kind_of_pathFault? hne hjoin
      | none =>
        rw [hjoin] at hmake
        have hplain : ¬ (name == Path.dot || name == Path.dotDot) = true := by
          simpa [beq_iff_eq] using hname.other
        simp only [bind, Except.bind, hinside] at hmake
        rw [if_neg hplain] at hmake
        split at hmake <;> cases hmake
        rfl
    rw [hmake] at h
    simp only [hkind, Bool.false_eq_true, ↓reduceIte] at h
    split at h <;> cases h
    exact .inl rfl

/-! ### A file in the directory -/

/-- **A file that is opened in a directory of a directory** stands there, if no link does. -/
theorem openEnd_join {file : Name} {l : Location} (hhome : t.resolve false home = .ok (.below here))
    (hname : Path.Plain name) (hfile : Path.Plain file)
    (hlink : ∀ target, t.get? (here ++ [name]) ≠ some (.link target))
    (hlink' : ∀ target, t.get? (here ++ [name] ++ [file]) ≠ some (.link target))
    (h : t.openEnd (Path.join (Path.join home name) file) = .ok (l, t')) :
    l = here ++ [name] ++ [file] := by
  obtain ⟨hfault, k, hk, hleads⟩ := leads_of_resolve hhome
  have hhome' := ne_nil_of_pathFault? hfault
  have hdirectory : Path.join home name ≠ [] := fun hnil =>
    hhome' (List.prefix_nil.mp (hnil ▸ Path.directory_prefix_join home name))
  have hnames : Path.names (Path.join (Path.join home name) file) =
      Path.namesFrom [] home ++ [name, file] := by
    rw [Path.names, Path.endsWithSlash_join _ hfile, Path.namesFrom_join _ hfile,
      Path.namesFrom_join _ hname]
    simp
  unfold openEnd at h
  obtain ⟨spot, hspot, h⟩ := Result.bind_eq_ok.mp h
  have hplace : spot = .below (here ++ [name] ++ [file]) := by
    unfold resolve at hspot
    split at hspot
    · cases hspot
    rw [hnames, base_join hdirectory, base_join hhome', walkLinks_append hleads hk] at hspot
    obtain ⟨follow, hfollow⟩ := exists_follow t true (maxLinks - k)
    rw [hfollow] at hspot
    obtain hwalk | ⟨hnil, -⟩ := walk_name hname hlink hspot
    · obtain hwalk | ⟨-, hr⟩ := walk_name hfile hlink' hwalk
      · rw [walk] at hwalk
        exact (Except.ok.inj hwalk).symm
      · exact hr
    · cases hnil
  subst hplace
  simp only at h
  split at h <;> cases h <;> rfl

end Tree
end StreamEditor
