/-
# Trees that differ in what one file holds

Two trees may differ in what a regular file at one place holds, and in nothing else
(`Tree.AlikeOff`). Paths lead to the same spots in both, and what is put, changed or taken away
elsewhere keeps them so. A log is such a file: lines are written behind its end, and nothing else of
the tree changes with that.

Key definitions: `Entry.Alike`, `Tree.AlikeOff`.
Key theorems: `Tree.AlikeOff.resolve`, `Tree.AlikeOff.find`, `Tree.AlikeOff.place`,
`Tree.AlikeOff.make`, `Tree.AlikeOff.move`.
-/
import StreamEditor.Proofs.Files.Place
import StreamEditor.Proofs.Rewrite.Atomic

namespace StreamEditor

/-- Two entries that differ at most in what a regular file holds, and in its permission bits. -/
def Entry.Alike : Option Entry → Option Entry → Prop
  | some (.file _ _), some (.file _ _) => True
  | e, e' => e = e'

namespace Entry.Alike

variable {e e' : Option Entry}

theorem of_eq (h : e = e') : Alike e e' := by
  subst h
  unfold Alike
  split <;> trivial

theorem cases (h : Alike e e') :
    e = e' ∨ ∃ data mode data' mode', e = some (.file data mode) ∧ e' = some (.file data' mode') := by
  unfold Alike at h
  split at h
  · exact .inr ⟨_, _, _, _, rfl, rfl⟩
  · exact .inl h

theorem isNone (h : Alike e e') : e.isNone = e'.isNone := by
  rcases h.cases with rfl | ⟨_, _, _, _, rfl, rfl⟩ <;> rfl

theorem isDirectory (h : Alike e e') :
    (e == some .directory) = (e' == some .directory) := by
  rcases h.cases with rfl | ⟨_, _, _, _, rfl, rfl⟩ <;> rfl

end Entry.Alike

namespace Tree

/-- The second tree is the first one but for what a regular file at one place holds. -/
structure AlikeOff (l : Location) (t t' : Tree) : Prop where
  off : ∀ l', l' ≠ l → t.get? l' = t'.get? l'
  here : Entry.Alike (t.get? l) (t'.get? l)
  taken : t'.get? l ≠ none

namespace AlikeOff

variable {l : Location} {t t' : Tree}

theorem alike (h : AlikeOff l t t') (l' : Location) : Entry.Alike (t.get? l') (t'.get? l') := by
  by_cases hl : l' = l
  · exact hl ▸ h.here
  · exact .of_eq (h.off l' hl)

/-! ### Following paths -/

theorem walk (h : AlikeOff l t t') {follow follow' : Spot → List Name → Except SystemError Spot}
    (hfollow : ∀ here names, follow here names = follow' here names) (making : Bool) :
    ∀ (names : List Name) (here : Spot),
      t.walk follow making here names = t'.walk follow' making here names
  | [], here => by
    unfold Tree.walk
    rfl
  | n :: ns, .above => by
    unfold Tree.walk
    rw [walk h hfollow making ns]
  | n :: ns, .below l' => by
    have ih := walk h hfollow making ns
    unfold Tree.walk
    rcases (h.alike l').cases with hdir | ⟨_, _, _, _, hdir, hdir'⟩
    · rw [hdir]
      split
      · rcases (h.alike (l' ++ [n])).cases with hentry | ⟨_, _, _, _, hentry, hentry'⟩
        · rw [hentry]
          simp only [ih, hfollow]
        · rw [hentry, hentry']
          simp only [ih]
      · rfl
    · rw [hdir, hdir']

theorem walkLinks (h : AlikeOff l t t') (making : Bool) : ∀ (n : Nat) (here : Spot)
    (names : List Name), t.walkLinks making n here names = t'.walkLinks making n here names
  | 0, here, names => h.walk (fun _ _ => rfl) making names here
  | n + 1, here, names => h.walk (walkLinks h making n) making names here

/-- **Paths lead to the same spots**, -/
theorem resolve (h : AlikeOff l t t') (making : Bool) (p : Path) :
    t.resolve making p = t'.resolve making p := by
  unfold Tree.resolve
  simp only [h.walkLinks]

theorem at? (h : AlikeOff l t t') {spot : Spot} (hspot : spot ≠ .below l) :
    t.at? spot = t'.at? spot := by
  cases spot with
  | above => rfl
  | below l' =>
    rw [Tree.at?, Tree.at?, h.off l' fun hl => hspot (hl ▸ rfl)]

/-- and to the same files, unless to the one that may differ. -/
theorem find (h : AlikeOff l t t') {p : Path}
    (hp : ∀ opened, t'.find p ≠ .ok (.below l, opened)) : t.find p = t'.find p := by
  unfold Tree.find
  rw [h.resolve]
  cases hresolve : t'.resolve false p with
  | error e => rfl
  | ok spot =>
    have hspot : spot ≠ .below l := by
      rintro rfl
      cases hat : t'.at? (.below l) with
      | none =>
        rw [Tree.at?] at hat
        cases hentry : t'.get? l with
        | none => exact h.taken hentry
        | some e => rw [hentry] at hat; cases e <;> cases hat
      | some opened => exact hp opened (find_iff.mpr ⟨hresolve, hat⟩)
    simp only [bind, Except.bind, h.at? hspot]

theorem holder (h : AlikeOff l t t') (p : Path) : t.holder p = t'.holder p := by
  unfold Tree.holder
  simp only [h.walkLinks]

/-- A path has the same place. -/
theorem place (h : AlikeOff l t t') (p : Path) : t.place p = t'.place p := by
  unfold Tree.place
  rw [h.holder]
  simp only [(h.alike _).isDirectory]

/-! ### Changes -/

theorem put (h : AlikeOff l t t') {l' : Location} (hl' : l' ≠ []) (e : Entry) :
    AlikeOff l (t.put l' e) (t'.put l' e) where
  off l'' hl'' := by rw [get?_put hl', get?_put hl', h.off l'' hl'']
  here := by
    rw [get?_put hl', get?_put hl']
    split
    · exact .of_eq rfl
    · exact h.here
  taken := by
    rw [get?_put hl']
    split
    · nofun
    · exact h.taken

theorem erase (h : AlikeOff l t t') {l' : Location} (hl' : l' ≠ l) :
    AlikeOff l (t.erase l') (t'.erase l') where
  off l'' hl'' := by
    by_cases hsame : l'' = l'
    · exact hsame ▸ get?_erase_self t t' l''
    · rw [get?_erase_of_ne t hsame, get?_erase_of_ne t' hsame, h.off l'' hl'']
  here := by
    rw [get?_erase_of_ne t hl'.symm, get?_erase_of_ne t' hl'.symm]
    exact h.here
  taken := by
    rw [get?_erase_of_ne t' hl'.symm]
    exact h.taken

theorem ne_nil_of_file {data : Bytes} {mode : Nat} (h : t.get? l = some (.file data mode)) :
    l ≠ [] := by
  rintro rfl
  cases h

theorem append (h : AlikeOff l t t') {l' : Location} (hl' : l' ≠ l) (data : Bytes) :
    AlikeOff l (t.append l' data) (t'.append l' data) := by
  unfold Tree.append
  rw [h.off l' hl']
  split
  · next hfile => exact h.put (ne_nil_of_file hfile) _
  · exact h

theorem setMode (h : AlikeOff l t t') {l' : Location} (hl' : l' ≠ l) (mode : Nat) :
    AlikeOff l (t.setMode l' mode) (t'.setMode l' mode) := by
  unfold Tree.setMode
  rw [h.off l' hl']
  split
  · next hfile => exact h.put (ne_nil_of_file hfile) _
  · exact h

/-- What is written behind the end of the file changes what it holds, and nothing else. -/
theorem append_here (h : AlikeOff l t t') (data : Bytes) : AlikeOff l (t.append l data) t' := by
  unfold Tree.append
  split
  · next old mode hfile =>
    have hne := ne_nil_of_file hfile
    refine ⟨fun l' hl' => by rw [get?_put_of_ne hne hl', h.off l' hl'], ?_, h.taken⟩
    rw [get?_put_self hne]
    rcases h.here.cases with heq | ⟨_, _, _, _, -, hfile'⟩
    · rw [← heq, hfile]
      trivial
    · rw [hfile']
      trivial
  · exact h

theorem refl (h : t.get? l ≠ none) : AlikeOff l t t := ⟨fun _ _ => rfl, .of_eq rfl, h⟩

/-! ### A file aside -/

theorem freeName (h : AlikeOff l t t') (draw : Nat → Name) (directory : Location) :
    ∀ (count n : Nat), Aside.freeName t draw directory count n =
      Aside.freeName t' draw directory count n
  | 0, _ => rfl
  | count + 1, n => by
    unfold Aside.freeName
    rw [(h.alike _).isNone, freeName h draw directory count]

/-- Two answers: both are the same error, or both the same value, and the trees differ in what one
file holds. -/
def Answers {α : Type} (l : Location) :
    Except SystemError (α × Tree) → Except SystemError (α × Tree) → Prop
  | .ok (a, t), .ok (a', t') => a = a' ∧ AlikeOff l t t'
  | .error e, .error e' => e = e'
  | _, _ => False

/-- A file is made aside under the same name. -/
theorem make (h : AlikeOff l t t') (draw : Nat → Name) (directory : Path) :
    Answers l (Aside.make t draw directory) (Aside.make t' draw directory) := by
  unfold Aside.make
  rw [h.resolve]
  cases t'.resolve false directory with
  | error cause => rfl
  | ok spot =>
    cases spot with
    | above => exact ⟨rfl, h⟩
    | below l' =>
      simp only [bind, Except.bind, (h.alike l').isDirectory, h.freeName]
      split
      · split
        · exact ⟨rfl, h.put (by simp) _⟩
        · rfl
      · rfl

/-- It is not in place of the file that may differ. -/
theorem make_ne (h : AlikeOff l t t') {draw : Nat → Name} {directory : Path} {a : Aside} {u : Tree}
    (hmake : Aside.make t' draw directory = .ok (a, u)) : a ≠ .within l := by
  rintro rfl
  cases Aside.Holding.make hmake with
  | within _ hfree => exact h.taken hfree

variable {a : Aside}

theorem asideAppend (h : AlikeOff l t t') (ha : a ≠ .within l) (data : Bytes) :
    (a.append t data).1 = (a.append t' data).1 ∧ (a.append t' data).1 ≠ .within l ∧
      AlikeOff l (a.append t data).2 (a.append t' data).2 := by
  cases a with
  | beyond old mode => exact ⟨rfl, nofun, h⟩
  | within l' => exact ⟨rfl, ha, h.append (fun hl => ha (hl ▸ rfl)) data⟩

theorem asideSetMode (h : AlikeOff l t t') (ha : a ≠ .within l) (mode : Nat) :
    (a.setMode t mode).1 = (a.setMode t' mode).1 ∧ (a.setMode t' mode).1 ≠ .within l ∧
      AlikeOff l (a.setMode t mode).2 (a.setMode t' mode).2 := by
  cases a with
  | beyond old mode' => exact ⟨rfl, nofun, h⟩
  | within l' => exact ⟨rfl, ha, h.setMode (fun hl => ha (hl ▸ rfl)) mode⟩

theorem asideRemove (h : AlikeOff l t t') (ha : a ≠ .within l) :
    AlikeOff l (a.remove t) (a.remove t') := by
  cases a with
  | beyond old mode => exact h
  | within l' => exact h.erase fun hl => ha (hl ▸ rfl)

/-- The file aside is moved over the same place. -/
theorem move (h : AlikeOff l t t') (ha : a ≠ .within l) (p : Path) :
    Answers l (a.move t p) (a.move t' p) := by
  have hentry : a.entry? t = a.entry? t' := by
    cases a with
    | beyond old mode => rfl
    | within l' => exact h.off l' fun hl => ha (hl ▸ rfl)
  unfold Aside.move
  rw [h.place, hentry]
  cases hplace : t'.place p with
  | error cause => rfl
  | ok l' =>
    simp only [bind, Except.bind]
    cases a.entry? t' with
    | none => rfl
    | some e => exact ⟨rfl, (h.asideRemove ha).put (place_ne_nil hplace) e⟩

end AlikeOff
end Tree
end StreamEditor
