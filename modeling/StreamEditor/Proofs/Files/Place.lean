/-
# Places of files

Opening a path goes through its last name to where that leads; replacing a file stops at the last
name. What opens as a regular file is held by a directory under that name (`holds_of_find`): a file
can be put there instead (`Holds.place`), the directory of the path is the one that holds it
(`Holds.resolve_directory`), and the file put there is the one that opens next (`find_put_place`).
A file made aside changes no place (`place_put_aside`).

Key definitions: `Tree.Holds`.
Key theorems: `Tree.holds_of_find`, `Tree.Holds.place`, `Tree.Holds.resolve_directory`,
`Tree.find_put_place`, `Tree.place_put_aside`.
-/
import StreamEditor.Proofs.Files.Path
import StreamEditor.Proofs.Files.Walk
import StreamEditor.Proofs.Result
import StreamEditor.Rewrite

namespace StreamEditor
namespace Tree

variable {t : Tree}

/-! ### Opening -/

theorem resolve_iff {p : Path} {spot : Spot} : t.resolve false p = .ok spot ↔
    pathFault? p = none ∧
      ∃ k, k ≤ maxLinks ∧ Leads t k (base p (.below [])) (Path.names p) spot := by
  unfold resolve
  cases pathFault? p with
  | some fault => simp
  | none => simp [walkLinks_iff]

/-- A beginning of a path is no worse than the path. -/
theorem pathFault?_of_beginning {p q : Path} (h : q <+: p) (hq : q ≠ []) (hp : pathFault? p = none) :
    pathFault? q = none := by
  obtain ⟨rest, rfl⟩ := h
  unfold pathFault? at hp ⊢
  simp only [List.contains_eq_mem, List.mem_append, List.length_append] at hp ⊢
  grind

theorem find_iff {p : Path} {spot : Spot} {opened : Opened} : t.find p = .ok (spot, opened) ↔
    t.resolve false p = .ok spot ∧ t.at? spot = some opened := by
  unfold find
  rw [Result.bind_eq_ok]
  constructor
  · rintro ⟨spot', hresolve, h⟩
    cases hat : t.at? spot' with
    | none =>
      rw [hat] at h
      cases h
    | some opened' =>
      rw [hat] at h
      cases h
      exact ⟨hresolve, hat⟩
  · rintro ⟨hresolve, hat⟩
    refine ⟨spot, hresolve, ?_⟩
    rw [hat]

theorem openFile_iff {p : Path} {opened : Opened} : t.openFile p = .ok opened ↔
    ∃ spot, t.find p = .ok (spot, opened) := by
  rw [openFile, Result.map_eq_ok]
  constructor
  · rintro ⟨⟨spot, _⟩, h, rfl⟩
    exact ⟨spot, h⟩
  · rintro ⟨spot, h⟩
    exact ⟨(spot, opened), h, rfl⟩

theorem at?_of_directory {l : Location} (h : t.get? l = some .directory) :
    t.at? (.below l) = some .directory := by
  rw [at?, h]

/-- The name of a directory in itself leads to a directory. -/
theorem Leads.at?_of_dot {k : Nat} {here r : Spot} (h : Leads t k here [Path.dot] r) :
    t.at? r = some .directory := by
  cases h with
  | above _ hrest =>
    rw [hrest.eq_of_nil]
    rfl
  | dot hdir hrest =>
    rw [hrest.eq_of_nil]
    exact at?_of_directory hdir
  | enter _ hdot => exact absurd rfl hdot
  | link _ hdot => exact absurd rfl hdot

/-! ### Directories on the way -/

/-- Every directory above a spot is one in the tree. -/
def Inside (t : Tree) : Spot → Prop
  | .above => True
  | .below l => ∀ n, n < l.length → t.get? (l.take n) = some .directory

theorem Inside.enter {l : Location} {n : Name} (h : Inside t (.below l))
    (hdir : t.get? l = some .directory) : Inside t (.below (l ++ [n])) := by
  intro j hj
  rw [List.length_append, List.length_singleton] at hj
  rcases Nat.lt_or_eq_of_le (Nat.le_of_lt_succ hj) with hlt | rfl
  · rw [List.take_append_of_le_length (Nat.le_of_lt hlt)]
    exact h j hlt
  · rw [List.take_left' rfl]
    exact hdir

theorem Inside.parent {l : Location} (h : Inside t (.below l)) : Inside t (parent (.below l)) := by
  cases l with
  | nil => trivial
  | cons n ns =>
    intro j hj
    rw [List.length_dropLast] at hj
    rw [List.dropLast_eq_take, List.take_take, Nat.min_eq_left (Nat.le_of_lt hj)]
    exact h j (by omega)

theorem Inside.base {p : Path} {here : Spot} (h : Inside t here) : Inside t (base p here) := by
  unfold Tree.base
  split
  · trivial
  · exact h

/-- Where names lead from inside, there are directories above as well. -/
theorem Leads.inside {k : Nat} {here r : Spot} {names : List Name} (h : Leads t k here names r) :
    Inside t here → Inside t r := by
  induction h with
  | stay => exact id
  | above _ _ ih => exact ih
  | dot _ _ ih => exact ih
  | dotDot _ _ ih => exact fun hin => ih hin.parent
  | enter hdir _ _ _ _ _ _ ih => exact fun hin => ih (hin.enter hdir)
  | link _ _ _ _ _ _ ih => exact fun hin => ih hin.base

theorem inside_base (p : Path) : Inside t (base p (.below [])) :=
  .base fun _ h => absurd h (Nat.not_lt_zero _)

/-- The spot above one inside is a directory. -/
theorem Inside.at?_parent {l : Location} (h : Inside t (.below l)) :
    t.at? (Tree.parent (.below l)) = some .directory := by
  cases l with
  | nil => rfl
  | cons n ns =>
    have hdir := h ns.length (by simp)
    rw [Tree.parent, List.dropLast_eq_take]
    exact at?_of_directory (by simpa using hdir)

/-- A name that leads from inside to a file is the name of an entry of its own, in a directory. -/
theorem Leads.of_last {k : Nat} {mid r : Spot} {name : Name} (h : Leads t k mid [name] r)
    (hin : Inside t mid) (hr : t.at? r ≠ some .directory) : ∃ directory e,
      mid = .below directory ∧ t.get? directory = some .directory ∧
        (name ≠ Path.dot ∧ name ≠ Path.dotDot) ∧
        t.get? (directory ++ [name]) = some e ∧ e ≠ .directory := by
  cases h with
  | above _ hrest =>
    rw [hrest.eq_of_nil] at hr
    exact absurd rfl hr
  | dot hdir hrest =>
    rw [hrest.eq_of_nil] at hr
    exact absurd (at?_of_directory hdir) hr
  | dotDot hdir hrest =>
    rw [hrest.eq_of_nil] at hr
    exact absurd hin.at?_parent hr
  | @enter _ l _ _ e _ hdir hdot hup _ hentry _ hrest =>
    rw [hrest.eq_of_nil] at hr
    exact ⟨l, e, rfl, hdir, ⟨hdot, hup⟩, hentry, fun he => hr (at?_of_directory (he ▸ hentry))⟩
  | @link _ l _ _ target _ hdir hdot hup _ hentry _ =>
    exact ⟨l, .link target, rfl, hdir, ⟨hdot, hup⟩, hentry, nofun⟩

/-! ### The last name of a path -/

/-- A path has a last name, under which a directory holds an entry that is no directory. -/
structure Holds (t : Tree) (p : Path) (directory : Location) (name : Name) : Prop where
  fault : pathFault? p = none
  names : Path.namesFrom [] p = (Path.namesFrom [] p).dropLast ++ [name]
  noSlash : Path.endsWithSlash p = false
  outer : ∃ k, k ≤ maxLinks ∧
    Leads t k (base p (.below [])) (Path.namesFrom [] p).dropLast (.below directory)
  inside : t.get? directory = some .directory
  plain : name ≠ Path.dot ∧ name ≠ Path.dotDot
  entry : ∃ e, t.get? (directory ++ [name]) = some e ∧ e ≠ .directory

variable {p : Path} {directory : Location} {name : Name}

/-- **What opens as a regular file is held by a directory**, under the last name of its path, and
where that name leads is the file. -/
theorem holds_of_find {spot : Spot} {data : Bytes} {mode : Nat}
    (h : t.find p = .ok (spot, .file data mode)) : ∃ directory name k₁ k₂,
      Holds t p directory name ∧ k₁ + k₂ ≤ maxLinks ∧
        Leads t k₁ (base p (.below [])) (Path.namesFrom [] p).dropLast (.below directory) ∧
        Leads t k₂ (.below directory) [name] spot := by
  obtain ⟨hresolve, hat⟩ := find_iff.mp h
  obtain ⟨hfault, k, hk, hleads⟩ := resolve_iff.mp hresolve
  have hfile : t.at? spot ≠ some .directory := by
    rw [hat]
    simp
  have hslash : Path.endsWithSlash p = false := by
    cases hs : Path.endsWithSlash p with
    | false => rfl
    | true =>
      rw [Path.names, if_pos hs] at hleads
      obtain ⟨-, k₂, mid, -, -, hlast⟩ := hleads.split _ _ rfl
      exact absurd hlast.at?_of_dot hfile
  rw [Path.names, hslash, if_neg Bool.false_ne_true, List.append_nil] at hleads
  have hne : Path.namesFrom [] p ≠ [] := by
    intro hnil
    rw [hnil] at hleads
    rw [hleads.eq_of_nil] at hfile
    apply hfile
    unfold base
    split <;> rfl
  have hnames := (List.dropLast_concat_getLast hne).symm
  obtain ⟨k₁, k₂, mid, hsum, houter, hlast⟩ := hleads.split _ _ hnames
  obtain ⟨directory, e, rfl, hdir, hplain, hentry, he⟩ :=
    hlast.of_last (houter.inside (inside_base p)) hfile
  exact ⟨directory, _, k₁, k₂,
    ⟨hfault, hnames, hslash, ⟨k₁, by omega, houter⟩, hdir, hplain, e, hentry, he⟩,
    hsum ▸ hk, houter, hlast⟩

/-! ### Places -/

theorem holder_eq {last : Name} {spot : Spot} {k : Nat} (hfault : pathFault? p = none)
    (hlast : (Path.namesFrom [] p).getLast? = some last) (hk : k ≤ maxLinks)
    (h : Leads t k (base p (.below [])) (Path.namesFrom [] p).dropLast spot) :
    t.holder p = .ok (spot, last) := by
  rw [holder, hfault, hlast]
  simp only
  rw [walkLinks_of_leads h hk]
  rfl

/-- **A file can be put** where a directory holds what a path names last. -/
theorem Holds.place (h : Holds t p directory name) : t.place p = .ok (directory ++ [name]) := by
  obtain ⟨k, hk, hleads⟩ := h.outer
  obtain ⟨e, hentry, he⟩ := h.entry
  have hlast : (Path.namesFrom [] p).getLast? = some name := by
    rw [h.names, List.getLast?_concat]
  have hplain : ¬ (name == Path.dot || name == Path.dotDot) = true := by
    simpa [beq_iff_eq] using h.plain
  have hfree : ¬ (t.get? (directory ++ [name]) == some .directory) = true := by
    simpa [hentry, beq_iff_eq] using he
  rw [Tree.place, holder_eq h.fault hlast hk hleads]
  change (if (name == Path.dot || name == Path.dotDot) = true then _ else _) = _
  rw [if_neg hplain, h.noSlash]
  simp only [Bool.false_eq_true, ↓reduceIte]
  rw [if_neg hfree]

/-- **A file put where nothing stands** changes no place of what can be opened. -/
theorem place_put_aside {aside : Location} {data : Bytes} {mode : Nat} {found : Spot × Opened}
    (hne : aside ≠ []) (hfree : t.get? aside = none) (h : t.find p = .ok found) :
    (t.put aside (.file data mode)).place p = t.place p := by
  obtain ⟨hresolve, -⟩ := find_iff.mp (show t.find p = .ok (found.1, found.2) from h)
  obtain ⟨hfault, k, hk, hleads⟩ := resolve_iff.mp hresolve
  have hmore : ∀ {l e}, t.get? l = some e → (t.put aside (.file data mode)).get? l = some e := by
    intro l e hl
    rw [get?_put_of_ne hne, hl]
    rintro rfl
    rw [hfree] at hl
    cases hl
  cases hlast : (Path.namesFrom [] p).getLast? with
  | none =>
    rw [place, place, holder, holder, hfault, hlast]
    rfl
  | some last =>
    -- The names before the last one lead somewhere, since all of them do.
    have hne' : Path.namesFrom [] p ≠ [] := by
      rintro hnil
      rw [hnil] at hlast
      cases hlast
    rw [Path.names, ← List.dropLast_concat_getLast hne', List.append_assoc] at hleads
    obtain ⟨k₁, k₂, spot, hsum, houter, -⟩ := hleads.split _ _ rfl
    have hk₁ : k₁ ≤ maxLinks := by omega
    rw [place, place, holder_eq hfault hlast hk₁ houter,
      holder_eq hfault hlast hk₁ (houter.mono hmore)]
    cases spot with
    | above => rfl
    | below l =>
      have hentry : ((t.put aside (.file data mode)).get? (l ++ [last]) == some .directory) =
          (t.get? (l ++ [last]) == some .directory) := by
        by_cases hl : l ++ [last] = aside
        · rw [hl, get?_put_self hne, hfree]
          rfl
        · rw [get?_put_of_ne hne hl]
      change (if _ then _ else if _ then _ else if _ then _ else _) = _
      rw [hentry]
      rfl

/-! ### A file put at the last name of a path -/

/-- Names that lead to a directory lead there still if a file is put in place of an entry that is no
directory and does not lead to one. -/
theorem Leads.put_last {e : Entry} {k : Nat} {here r : Spot} {names : List Name}
    (hentry : t.get? (directory ++ [name]) ≠ some .directory)
    (hlast : ∀ {k r}, Leads t k (.below directory) [name] r → t.at? r ≠ some .directory)
    (h : Leads t k here names r) : t.at? r = some .directory →
      Leads (t.put (directory ++ [name]) e) k here names r := by
  have hne : directory ++ [name] ≠ [] := by simp
  have hkeep : ∀ {l}, t.get? l = some .directory →
      (t.put (directory ++ [name]) e).get? l = some .directory := by
    intro l hl
    rw [get?_put_of_ne hne, hl]
    rintro rfl
    exact hentry hl
  induction h with
  | stay => exact fun _ => .stay
  | above hname _ ih => exact fun hr => .above hname (ih hr)
  | dot hdir _ ih => exact fun hr => .dot (hkeep hdir) (ih hr)
  | dotDot hdir _ ih => exact fun hr => .dotDot (hkeep hdir) (ih hr)
  | @enter k l n ns e' r hdir hdot hup hshort he' hplain hrest ih =>
    intro hr
    have hother : l ++ [n] ≠ directory ++ [name] := by
      intro heq
      obtain ⟨rfl, hn⟩ := List.append_inj' heq rfl
      obtain rfl := List.singleton_inj.mp hn
      exact hlast (.enter hdir hdot hup hshort he' hplain .stay) (hrest.from_directory hr)
    exact .enter (hkeep hdir) hdot hup hshort ((get?_put_of_ne hne hother).trans he') hplain (ih hr)
  | @link k l n ns target r hdir hdot hup hshort he' hrest ih =>
    intro hr
    have hother : l ++ [n] ≠ directory ++ [name] := by
      intro heq
      obtain ⟨rfl, hn⟩ := List.append_inj' heq rfl
      obtain rfl := List.singleton_inj.mp hn
      -- The names behind the link lead from where the link leads to a directory, so it leads to one.
      obtain ⟨k₁, k₂, mid, -, h₁, h₂⟩ := hrest.split _ _ rfl
      rw [← List.append_nil (Path.names target)] at h₁
      exact hlast (.link hdir hdot hup hshort he' h₁) (h₂.from_directory hr)
    exact .link (hkeep hdir) hdot hup hshort ((get?_put_of_ne hne hother).trans he') (ih hr)

/-- **A file put at the last name of a path is found there**, if the path led to a file before. -/
theorem find_put_place {spot : Spot} {data : Bytes} {mode : Nat}
    (h : t.find p = .ok (spot, .file data mode)) (data' : Bytes) (mode' : Nat) : ∃ l, t.place p = .ok l ∧
      (t.put l (.file data' mode')).find p = .ok (.below l, .file data' mode') := by
  obtain ⟨directory, name, k₁, k₂, hholds, hk, houter, hlast⟩ := holds_of_find h
  obtain ⟨e, hentry, he⟩ := hholds.entry
  refine ⟨directory ++ [name], hholds.place, ?_⟩
  have hne : directory ++ [name] ≠ [] := by simp
  have hfile : ∀ {k r}, Leads t k (.below directory) [name] r → t.at? r ≠ some .directory := by
    intro k r hr
    rw [hlast.unique hr, (find_iff.mp h).2]
    simp
  have hnot : t.get? (directory ++ [name]) ≠ some .directory := by
    rw [hentry]
    exact fun h => he (Option.some.inj h)
  have hself : (t.put (directory ++ [name]) (.file data' mode')).get? (directory ++ [name]) =
      some (.file data' mode') := get?_put_self hne
  have hdir : (t.put (directory ++ [name]) (.file data' mode')).get? directory =
      some .directory := by
    rw [get?_put_of_ne hne, hholds.inside]
    rintro h
    rw [← h] at hnot
    exact hnot hholds.inside
  have hshort : name.length ≤ maxName := by
    cases hlast with
    | dot _ _ => exact absurd rfl hholds.plain.1
    | dotDot _ _ => exact absurd rfl hholds.plain.2
    | enter _ _ _ hshort => exact hshort
    | link _ _ _ hshort => exact hshort
  have houter' := houter.put_last (e := .file data' mode') hnot hfile (at?_of_directory hholds.inside)
  have hname : Leads (t.put (directory ++ [name]) (.file data' mode')) 0 (.below directory) [name]
      (.below (directory ++ [name])) :=
    .enter hdir hholds.plain.1 hholds.plain.2 hshort hself (fun _ => nofun) .stay
  have hwhole := houter'.append hname
  rw [← hholds.names] at hwhole
  refine find_iff.mpr ⟨resolve_iff.mpr ⟨hholds.fault, k₁ + 0, by omega, ?_⟩, ?_⟩
  · rw [Path.names, hholds.noSlash, if_neg Bool.false_ne_true, List.append_nil]
    exact hwhole
  · rw [at?, hself]

theorem openFile_put_place {l : Location} {data data' : Bytes} {mode mode' : Nat}
    (hopen : t.openFile p = .ok (.file data mode)) (hplace : t.place p = .ok l) :
    (t.put l (.file data' mode')).openFile p = .ok (.file data' mode') := by
  obtain ⟨spot, hfind⟩ := openFile_iff.mp hopen
  obtain ⟨l', hplace', hfind'⟩ := find_put_place hfind data' mode'
  obtain rfl : l = l' := Except.ok.inj (hplace.symm.trans hplace')
  exact openFile_iff.mpr ⟨_, hfind'⟩

/-! ### The directory of a path -/

/-- **The directory of a path** is the one that holds what the path names last. -/
theorem Holds.resolve_directory (h : Holds t p directory name) :
    t.resolve false (Rewrite.directory p) = .ok (.below directory) := by
  have hp : p ≠ [] := by
    rintro rfl
    exact absurd h.fault (by decide)
  obtain ⟨last, hnames, hprefix, hempty, hnonempty⟩ := Path.names_eq hp h.noSlash
  have houter : (Path.namesFrom [] p).dropLast = Path.namesFrom [] (Path.parent p) := by
    rw [hnames, List.dropLast_concat]
  have hsome : (Path.namesFrom [] p).isEmpty = false := by
    rw [hnames]
    simp
  obtain ⟨k, hk, hleads⟩ := h.outer
  rw [houter] at hleads
  cases hparent : Path.parent p with
  | nil =>
    rw [hparent] at hleads hempty
    have hhere : directory = [] := by
      have := hleads.eq_of_nil
      rw [base, hempty rfl] at this
      cases this
      rfl
    rw [Rewrite.directory, hparent, List.isEmpty_nil, Bool.true_or, if_pos rfl, hhere]
    exact resolve_iff.mpr ⟨by decide, 0, Nat.zero_le _, .dot rfl .stay⟩
  | cons b rest =>
    rw [hparent] at hleads hprefix hnonempty
    rw [Rewrite.directory, hparent, hsome]
    simp only [List.isEmpty_cons, Bool.or_self, Bool.false_eq_true, ↓reduceIte]
    have hbase : base (b :: rest) (.below []) = base p (.below []) := by
      rw [base, base, hnonempty (by simp)]
    have hself : Leads t 0 (.below directory) [Path.dot] (.below directory) :=
      .dot h.inside .stay
    refine resolve_iff.mpr ⟨pathFault?_of_beginning hprefix (by simp) h.fault, k, hk, ?_⟩
    rw [hbase, Path.names]
    split
    · exact hleads.append hself
    · rwa [List.append_nil]

end Tree
end StreamEditor
