/-
# Trees that grow

Making directories, and opening a file to write behind its end, adds entries to a tree and takes
none away (`Tree.Grows`). What opens in a tree opens in one that has grown from it, and a regular
file that is rewritten there comes to the same, as long as no name drawn for a file aside has been
taken (`Rewrite.outcome_of_grows`).

Key definition: `Tree.Grows`.
Key theorems: `Tree.makeDirectories_grows`, `Tree.openEnd_grows`, `Rewrite.outcome_of_grows`.
-/
import StreamEditor.Proofs.Rewrite.Atomic

namespace StreamEditor
namespace Tree

/-- The second tree has all entries of the first one. -/
def Grows (t t' : Tree) : Prop := ∀ l e, t.get? l = some e → t'.get? l = some e

variable {t t' : Tree} {p : Path}

theorem Grows.refl (t : Tree) : t.Grows t := fun _ _ h => h

theorem Grows.trans {t'' : Tree} (h : t.Grows t') (h' : t'.Grows t'') : t.Grows t'' :=
  fun l e he => h' l e (h l e he)

theorem grows_put {l : Location} (hl : l ≠ []) (hfree : t.get? l = none) (e : Entry) :
    t.Grows (t.put l e) := by
  intro l' e' he'
  rwa [get?_put_of_ne hl]
  rintro rfl
  rw [hfree] at he'
  cases he'

/-! ### Making directories -/

/-- A directory is made in another, where nothing stands. -/
theorem eq_put_of_makeDirectory (h : t.makeDirectory p = .ok t') : ∃ l name,
    t.holder p = .ok (.below l, name) ∧ t.get? (l ++ [name]) = none ∧
      t' = t.put (l ++ [name]) .directory := by
  unfold makeDirectory at h
  obtain ⟨⟨spot, name⟩, hholder, h⟩ := Result.bind_eq_ok.mp h
  cases spot with
  | above =>
    simp only at h
    split at h <;> cases h
  | below l =>
    simp only at h
    split at h
    · split at h
      · cases h
      · next hfree =>
        split at h
        · cases h
        · next hfree =>
          cases h
          exact ⟨l, name, hholder, by simpa using hfree, rfl⟩
    · cases h

theorem makeDirectory_grows (h : t.makeDirectory p = .ok t') : t.Grows t' := by
  obtain ⟨l, name, -, hfree, rfl⟩ := eq_put_of_makeDirectory h
  exact grows_put (by simp) hfree _

theorem makeDirectoriesFrom_grows : ∀ {fuel : Nat} {t t' : Tree} {p : Path},
    makeDirectoriesFrom fuel t p = .ok t' → t.Grows t'
  | 0, t, t', p, h => by
    cases h
    exact .refl t
  | fuel + 1, t, t', p, h => by
    have orThere : ∀ {t t' : Tree} {e : SystemError},
        (if t.isDirectory p then Except.ok t else .error e) = .ok t' → t.Grows t' := by
      intro t t' e h
      split at h <;> cases h
      exact .refl t
    rw [makeDirectoriesFrom] at h
    simp only at h
    split at h
    · cases h
      exact .refl t
    cases hmake : t.makeDirectory p with
    | ok made =>
      rw [hmake] at h
      cases h
      exact makeDirectory_grows hmake
    | error e =>
      rw [hmake] at h
      simp only at h
      split at h
      · obtain ⟨outer, houter, h⟩ := Result.bind_eq_ok.mp h
        refine (makeDirectoriesFrom_grows houter).trans ?_
        cases hmake : outer.makeDirectory p with
        | ok made =>
          rw [hmake] at h
          cases h
          exact makeDirectory_grows hmake
        | error e =>
          rw [hmake] at h
          exact orThere h
      · exact orThere h

/-- **Making directories** takes nothing away. -/
theorem makeDirectories_grows (h : t.makeDirectories p = .ok t') : t.Grows t' :=
  makeDirectoriesFrom_grows h

/-- Opening a file to write behind its end makes that file, or nothing if it is there. -/
theorem eq_or_eq_put_of_openEnd {l : Location} (h : t.openEnd p = .ok (l, t')) :
    (t' = t ∧ t.get? l ≠ none) ∨
      (l ≠ [] ∧ t.get? l = none ∧ t' = t.put l (.file [] newFileMode)) := by
  unfold openEnd at h
  obtain ⟨spot, -, h⟩ := Result.bind_eq_ok.mp h
  cases spot with
  | above => cases h
  | below l' =>
    simp only at h
    cases hentry : t.get? l' with
    | none =>
      rw [hentry] at h
      cases h
      refine .inr ⟨?_, hentry, rfl⟩
      rintro rfl
      cases hentry
    | some e =>
      rw [hentry] at h
      cases e with
      | directory => cases h
      | file data mode =>
        cases h
        exact .inl ⟨rfl, by simp [hentry]⟩
      | link target =>
        cases h
        exact .inl ⟨rfl, by simp [hentry]⟩

/-- **Opening a file to write behind its end** takes nothing away, and the file is there. -/
theorem openEnd_grows {l : Location} (h : t.openEnd p = .ok (l, t')) :
    t.Grows t' ∧ t'.get? l ≠ none := by
  obtain ⟨rfl, htaken⟩ | ⟨hl, hfree, rfl⟩ := eq_or_eq_put_of_openEnd h
  · exact ⟨.refl _, htaken⟩
  · exact ⟨grows_put hl hfree _, by simp [get?_put_self hl]⟩

/-! ### What is found -/

namespace Grows

variable (h : t.Grows t')
include h

theorem at? {spot : Spot} {opened : Opened} (hat : t.at? spot = some opened) :
    t'.at? spot = some opened := by
  cases spot with
  | above => exact hat
  | below l =>
    cases hentry : t.get? l with
    | none =>
      rw [Tree.at?, hentry] at hat
      cases hat
    | some e =>
      rw [Tree.at?, hentry] at hat
      rw [Tree.at?, h l e hentry]
      exact hat

theorem resolve {spot : Spot} (hresolve : t.resolve false p = .ok spot) :
    t'.resolve false p = .ok spot := by
  obtain ⟨hfault, k, hk, hleads⟩ := resolve_iff.mp hresolve
  exact resolve_iff.mpr ⟨hfault, k, hk, hleads.mono fun {_ _} he => h _ _ he⟩

theorem find {found : Spot × Opened} (hfind : t.find p = .ok found) : t'.find p = .ok found := by
  obtain ⟨spot, opened⟩ := found
  obtain ⟨hresolve, hat⟩ := find_iff.mp hfind
  exact find_iff.mpr ⟨h.resolve hresolve, h.at? hat⟩

theorem openFile {file : Opened} (hopen : t.openFile p = .ok file) : t'.openFile p = .ok file := by
  obtain ⟨spot, hfind⟩ := openFile_iff.mp hopen
  exact openFile_iff.mpr ⟨spot, h.find hfind⟩

theorem holds {directory : Location} {name : Name} (hholds : Holds t p directory name) :
    Holds t' p directory name := by
  obtain ⟨k, hk, hleads⟩ := hholds.outer
  obtain ⟨e, hentry, he⟩ := hholds.entry
  exact { hholds with
    outer := ⟨k, hk, hleads.mono fun {_ _} he => h _ _ he⟩
    inside := h _ _ hholds.inside
    entry := ⟨e, h _ _ hentry, he⟩ }

end Grows

/-- Names that lead through a tree with one file more lead nowhere else without that file, unless to
it. -/
theorem Leads.of_put_file {l : Location} {data : Bytes} {mode k : Nat} {here r : Spot}
    {names : List Name} (hl : l ≠ []) (h : Leads (t.put l (.file data mode)) k here names r) :
    r ≠ .below l → Leads t k here names r := by
  have hdirectory : ∀ {l'}, (t.put l (.file data mode)).get? l' = some .directory →
      t.get? l' = some .directory := by
    intro l' h'
    rw [get?_put hl] at h'
    split at h'
    · cases h'
    · exact h'
  induction h with
  | stay => exact fun _ => .stay
  | above hname _ ih => exact fun hr => .above hname (ih hr)
  | dot hdir _ ih => exact fun hr => .dot (hdirectory hdir) (ih hr)
  | dotDot hdir _ ih => exact fun hr => .dotDot (hdirectory hdir) (ih hr)
  | @enter k l' n ns e r hdir hdot hup hshort hentry hplain hrest ih =>
    intro hr
    rw [get?_put hl] at hentry
    split at hentry
    · next hself =>
      -- Nothing lies behind a file.
      rw [hself] at hrest
      cases hrest with
      | stay => exact absurd rfl hr
      | dot hself' _ => rw [get?_put_self hl] at hself'; cases hself'
      | dotDot hself' _ => rw [get?_put_self hl] at hself'; cases hself'
      | enter hself' => rw [get?_put_self hl] at hself'; cases hself'
      | link hself' => rw [get?_put_self hl] at hself'; cases hself'
    · exact .enter (hdirectory hdir) hdot hup hshort hentry hplain (ih hr)
  | @link k l' n ns target r hdir hdot hup hshort hentry _ ih =>
    intro hr
    rw [get?_put hl] at hentry
    split at hentry
    · cases hentry
    · exact .link (hdirectory hdir) hdot hup hshort hentry (ih hr)

/-- **One file more** makes a path lead nowhere else, unless to that file. -/
theorem find_of_put_file {l : Location} {data : Bytes} {mode : Nat} {spot : Spot} {opened : Opened}
    (hl : l ≠ []) (hspot : spot ≠ .below l)
    (h : (t.put l (.file data mode)).find p = .ok (spot, opened)) : t.find p = .ok (spot, opened) := by
  obtain ⟨hresolve, hat⟩ := find_iff.mp h
  obtain ⟨hfault, k, hk, hleads⟩ := resolve_iff.mp hresolve
  refine find_iff.mpr ⟨resolve_iff.mpr ⟨hfault, k, hk, hleads.of_put_file hl hspot⟩, ?_⟩
  cases spot with
  | above => exact hat
  | below l' =>
    rwa [Tree.at?, get?_put_of_ne hl fun heq => hspot (heq ▸ rfl)] at hat

end Tree

/-! ### Files aside -/

namespace Aside

/-- No name drawn for a file aside has been taken as a tree grew. -/
def KeepsFree (draw : Nat → Name) (t t' : Tree) : Prop :=
  ∀ directory k, t.get? (directory ++ [draw k]) = none → t'.get? (directory ++ [draw k]) = none

variable {t t' : Tree} {draw : Nat → Name}

theorem KeepsFree.trans {t'' : Tree} (h : KeepsFree draw t t') (h' : KeepsFree draw t' t'') :
    KeepsFree draw t t'' :=
  fun directory k hfree => h' directory k (h directory k hfree)

/-- An entry under a name that is never drawn takes none that is. -/
theorem keepsFree_put {outer : Location} {name : Name} (h : ∀ k, draw k ≠ name) (e : Entry) :
    KeepsFree draw t (t.put (outer ++ [name]) e) := by
  intro directory k hfree
  rwa [Tree.get?_put_of_ne (by simp)]
  intro heq
  exact h k (List.singleton_inj.mp (List.append_inj' heq rfl).2)

theorem freeName_of_grows (h : t.Grows t') (hfree : KeepsFree draw t t') (directory : Location) :
    ∀ count n : Nat, freeName t' draw directory count n = freeName t draw directory count n
  | 0, _ => rfl
  | count + 1, n => by
    rw [freeName, freeName, freeName_of_grows h hfree directory count]
    cases hentry : t.get? (directory ++ [draw n]) with
    | none => rw [hfree _ _ hentry]
    | some e => rw [h _ _ hentry]

/-- A file is made aside under the same name. -/
theorem make_of_grows (h : t.Grows t') (hfree : KeepsFree draw t t') {p : Path}
    {directory : Location} (hdirectory : t.resolve false p = .ok (.below directory))
    (hdirectory' : t'.resolve false p = .ok (.below directory))
    (hinside : t.get? directory = some .directory) :
    (make t' draw p).map (·.1) = (make t draw p).map (·.1) := by
  unfold make
  rw [hdirectory, hdirectory']
  simp only [bind, Except.bind, hinside, h _ _ hinside, freeName_of_grows h hfree]
  cases freeName t draw directory maxDraws 0 <;> rfl

end Aside

/-! ### Rewriting -/

namespace Rewrite

variable {α : Type}

/-- What rewriting an opened file comes to, but for where it is put; `made` is what making a file
aside gives. -/
def prepared (s : System) (p : Path) (file : Tree.Opened) (made : Except SystemError Aside)
    (edit : Edit α) : Except EditError α := do
  (s.permit .metadata).mapError (refused p "cannot read metadata")
  let _ ← ((s.permit .create).bind fun _ => made).mapError
    (refused p ("cannot create temp file in " ++ Path.text (directory p)))
  let value ← (edit.over file 0).2
  (s.permit .flush).mapError .write
  (s.permit .permissions).mapError (refused p "cannot copy permissions")
  (s.permit .rename).mapError (refused p "cannot replace file")
  return value

theorem outcome_of_place {t : Tree} {s : System} {p : Path} {file : Tree.Opened} {l : Location}
    (hopen : s.openFile t p = .ok file) (hplace : t.place p = .ok l) (edit : Edit α) :
    outcome s t p edit =
      (prepared s p file ((Aside.make t s.draw (directory p)).map (·.1)) edit).map fun value =>
        (value, t.put l (.file (edit.over file 0).1 file.mode)) := by
  unfold outcome published prepared
  rw [hopen, hplace]
  have hopened : (Except.ok file).mapError (EditError.fileOpen p) = .ok file := rfl
  rw [hopened]
  simp only [bind, Except.bind]
  cases s.permit .metadata with
  | error cause => rfl
  | ok _ =>
    cases s.permit .create with
    | error cause => rfl
    | ok _ =>
      cases Aside.make t s.draw (directory p) with
      | error cause => rfl
      | ok made =>
        cases (edit.over file 0).2 with
        | error e => rfl
        | ok value =>
          cases s.permit .flush with
          | error cause => rfl
          | ok _ =>
            cases s.permit .permissions with
            | error cause => rfl
            | ok _ => cases s.permit .rename <;> rfl

/-- **A regular file is rewritten in the same way** in a tree that has grown: it comes to the same
failure, or to the same file at the same place. -/
theorem outcome_of_grows {t t' : Tree} {s : System} {p : Path} {data : Bytes} {mode : Nat}
    (h : t.Grows t') (hfree : Aside.KeepsFree s.draw t t')
    (hopen : s.openFile t p = .ok (.file data mode)) (edit : Edit α) :
    ∃ (x : Except EditError α) (l : Location) (e : Entry), l ≠ [] ∧
      outcome s t p edit = x.map (fun value => (value, t.put l e)) ∧
      outcome s t' p edit = x.map (fun value => (value, t'.put l e)) := by
  obtain ⟨hopens, hthere⟩ := System.openFile_eq_ok.mp hopen
  have hopen' := System.openFile_eq_ok.mpr ⟨hopens, h.openFile hthere⟩
  obtain ⟨spot, hfind⟩ := Tree.openFile_iff.mp hthere
  obtain ⟨directory, name, -, -, hholds, -⟩ := Tree.holds_of_find hfind
  have hholds' := h.holds hholds
  have hmade := Aside.make_of_grows h hfree hholds.resolve_directory hholds'.resolve_directory
    hholds.inside
  refine ⟨_, directory ++ [name], _, by simp, outcome_of_place hopen hholds.place edit, ?_⟩
  rw [outcome_of_place hopen' hholds'.place edit, hmade]

end Rewrite
end StreamEditor
