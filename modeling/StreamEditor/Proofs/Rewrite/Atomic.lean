/-
# Rewriting a file is all or nothing

Rewriting a file takes many steps, and a file stands aside for most of them. Yet it comes to what it
would come to in one step (`Rewrite.outcome`): the first failure, and then the files are as they
were, or the value of the edit, and then a file with what the edit wrote is in place of what the
path names last, and nothing else has changed (`Rewrite.run_plan`). An edit that succeeds on a
regular file is put in place if the system refuses no step of the rewriting and a name for the file
aside is free.

Key definitions: `Rewrite.outcome`, `Rewrite.steps`, `Rewrite.Writable`.
Key theorems: `Rewrite.run_plan`, `Tree.rewrite_all_or_nothing`.
-/
import StreamEditor.Proofs.Rewrite.Aside

namespace StreamEditor

/-! ### What the system lets pass -/

namespace System

variable {s : System} {t : Tree} {p : Path}

theorem permit_eq_ok {step : FileStep} {u : Unit} :
    s.permit step = .ok u ↔ s.refusal step = none := by
  unfold permit
  cases s.refusal step with
  | none => exact iff_of_true rfl rfl
  | some cause => exact iff_of_false nofun nofun

theorem find_eq_ok {found : Spot × Tree.Opened} :
    s.find t p = .ok found ↔ s.refusal (.openFile p) = none ∧ t.find p = .ok found := by
  simp [find, Result.bind_eq, Result.bind_eq_ok, permit_eq_ok]

theorem openFile_eq_ok {file : Tree.Opened} :
    s.openFile t p = .ok file ↔ s.refusal (.openFile p) = none ∧ t.openFile p = .ok file := by
  simp [openFile, Tree.openFile, Result.map_eq_ok, find_eq_ok, and_assoc]

end System

/-! ### In one step -/

namespace Rewrite

variable {α : Type}

/-- What putting a file in place comes to, in one step. -/
def published (s : System) (t : Tree) (p : Path) (mode : Nat) (out : Bytes) (value : α) :
    Except EditError (α × Tree) := do
  (s.permit .flush).mapError .write
  (s.permit .permissions).mapError (refused p "cannot copy permissions")
  let l ← ((s.permit .rename).bind fun _ => t.place p).mapError (refused p "cannot replace file")
  return (value, t.put l (.file out mode))

/-- What rewriting a file comes to, in one step: the value of the edit and the files after it, or
the first failure. -/
def outcome (s : System) (t : Tree) (p : Path) (edit : Edit α) : Except EditError (α × Tree) := do
  let file ← (s.openFile t p).mapError (.fileOpen p)
  (s.permit .metadata).mapError (refused p "cannot read metadata")
  let _ ← ((s.permit .create).bind fun _ => Aside.make t s.draw (directory p)).mapError
    (refused p ("cannot create temp file in " ++ Path.text (directory p)))
  let value ← (edit.over file 0).2
  published s t p file.mode (edit.over file 0).1 value

/-- The files after an outcome: those from before if it is an error. -/
def after (t : Tree) : Except EditError (α × Tree) → Tree
  | .ok (_, t') => t'
  | .error _ => t

/-- A plan carried out while a file stands aside comes to an outcome: the file still stands aside if
that is an error, and the files are those of the outcome if it is a value. -/
structure Comes (t : Tree) (w : World) (r : Except EditError (α × Tree))
    (answer : Except EditError α × World) : Prop where
  value : answer.1 = r.map (·.1)
  around : w.Around answer.2
  error : ∀ e, r = .error e → ∃ file mode position written,
    answer.2.Editing t file mode position written
  ok : ∀ value t', r = .ok (value, t') → answer.2.tree = t' ∧ answer.2.aside = none

variable {t : Tree} {p : Path} {file : Tree.Opened} {mode position : Nat} {written : Bytes}
  {w : World} {found : Spot × Tree.Opened}

theorem Comes.of_error (h : w.Editing t file mode position written) (e : EditError) :
    Comes (α := α) t w (.error e) (.error e, w) :=
  ⟨rfl, .refl w, fun _ _ => ⟨_, _, _, _, h⟩, fun _ _ he => by cases he⟩

theorem Comes.trans {w' : World} {r : Except EditError (α × Tree)}
    {answer : Except EditError α × World} (h : w.Around w') (h' : Comes t w' r answer) :
    Comes t w r answer :=
  ⟨h'.value, h.trans h'.around, h'.error, h'.ok⟩

/-- **Publishing** does what it does in one step, and leaves the file aside if it fails. -/
theorem publish_comes (hp : t.find p = .ok found)
    (h : w.Editing t file mode position written) (mode' : Nat) (value : α) :
    Comes t w (published w.system t p mode' written value)
      (World.run (publish p mode' value) w) := by
  obtain ⟨w₁, hset, haround, h₁⟩ := h.setMode mode'
  obtain ⟨next, hrename, hnext⟩ := h₁.rename hp
  unfold published publish
  rw [World.run]
  cases w.system.permit .flush with
  | error cause => exact .of_error h _
  | ok _ =>
    simp only
    rw [World.run, hset]
    cases w.system.permit .permissions with
    | error cause => exact .of_error h _
    | ok _ =>
      refine .trans haround ?_
      change Comes t w₁ _ (World.run (.rename p _) w₁)
      rw [World.run, hrename, haround.system]
      cases (w.system.permit .rename).bind fun _ => t.place p with
      | error cause => exact .of_error h₁ _
      | ok l =>
        obtain ⟨haround', htree, haside⟩ := hnext l
        refine ⟨rfl, haround', fun e he => ?_, fun value' t' he => ?_⟩
        · cases he
        · cases he
          exact ⟨htree, haside⟩

/-- **An edit, and the publishing of what it wrote**, do the same. -/
theorem edited_comes (hp : t.find p = .ok found) (h : w.Editing t file mode 0 []) (mode' : Nat)
    (edit : Edit α) :
    Comes t w
      ((edit.over file 0).2.bind fun value =>
        published w.system t p mode' (edit.over file 0).1 value)
      (World.run (edited p mode' edit) w) := by
  obtain ⟨w₁, position, hrun, haround, h₁⟩ := edit.run_toPlan h
  rw [List.nil_append] at h₁
  rw [edited, World.run_bind, hrun]
  cases (edit.over file 0).2 with
  | error e => exact .trans haround (.of_error h₁ e)
  | ok value =>
    rw [← haround.system]
    exact .trans haround (publish_comes hp h₁ mode' value)

/-- What fails while a file stands aside leaves the files from before, if it is guarded. -/
theorem Comes.guarded {r : Except EditError (α × Tree)} {plan : Plan (Except EditError α)}
    (h : Comes t w r (World.run plan w)) : ∃ w',
      World.run (guarded plan) w = (r.map (·.1), w') ∧ w.Around w' ∧ w'.tree = after t r ∧
        w'.aside = none := by
  rw [Rewrite.guarded, World.run_bind, h.value]
  cases r with
  | error e =>
    obtain ⟨_, _, _, _, hediting⟩ := h.error e rfl
    obtain ⟨haround, htree, haside⟩ := hediting.removeAside
    exact ⟨_, rfl, h.around.trans haround, htree, haside⟩
  | ok r =>
    obtain ⟨value, t'⟩ := r
    obtain ⟨htree, haside⟩ := h.ok value t' rfl
    exact ⟨_, rfl, h.around, htree, haside⟩

/-- **Rewriting a file comes to its outcome**, in a world where no log is open. -/
theorem run_plan (hlog : w.log = none) (haside : w.aside = none) (p : Path) (edit : Edit α) :
    ∃ w', World.run (plan p edit) w = ((outcome w.system w.tree p edit).map (·.1), w') ∧
      w.Around w' ∧ w'.tree = after w.tree (outcome w.system w.tree p edit) ∧
      w'.aside = none := by
  rw [plan, World.run, World.openFile, outcome, System.openFile]
  cases hopens : w.system.find w.tree p with
  | error cause => exact ⟨w, rfl, .refl w, rfl, haside⟩
  | ok found =>
    obtain ⟨spot, file⟩ := found
    have hfind := (System.find_eq_ok.mp hopens).2
    have hat := (Tree.find_iff.mp hfind).2
    have haround : w.Around { w with reading := some ⟨spot, 0⟩ } := ⟨rfl, rfl, rfl, rfl, rfl, rfl⟩
    have hopened : World.opened { w with reading := some ⟨spot, 0⟩ } = .ok file :=
      World.opened_of_reading rfl hat
    change ∃ w', World.run (.fileMode _) { w with reading := some ⟨spot, 0⟩ } = _ ∧ _
    rw [World.run, World.fileMode_eq hopened]
    simp only
    cases w.system.permit .metadata with
    | error cause => exact ⟨_, rfl, haround, rfl, haside⟩
    | ok _ =>
      obtain ⟨next, hmake, hnext⟩ :=
        World.makeAside_eq (w := { w with reading := some ⟨spot, 0⟩ }) hlog rfl hat (directory p)
      change ∃ w', World.run (.makeAside _ _) { w with reading := some ⟨spot, 0⟩ } = _ ∧ _
      rw [World.run, hmake]
      simp only at hnext ⊢
      cases hmade : (w.system.permit .create).bind fun _ =>
          Aside.make w.tree w.system.draw (directory p) with
      | error cause => exact ⟨_, rfl, haround, rfl, haside⟩
      | ok made =>
        obtain ⟨haround', hediting⟩ := hnext made hmade
        obtain ⟨w', hrun, haround'', htree, haside'⟩ :=
          (edited_comes hfind hediting file.mode edit).guarded
        rw [haround'.system] at hrun htree
        exact ⟨w', hrun, (haround.trans haround').trans haround'', htree, haside'⟩

/-! ### What a success means -/

/-- The steps of rewriting a file that a system may refuse. -/
def steps (p : Path) : List FileStep :=
  [.openFile p, .metadata, .create, .flush, .permissions, .rename]

/-- Rewriting a file succeeds exactly if the file opens, a file can be made aside, the edit succeeds
over the file that was opened, the path has a place, and none of its steps is refused. -/
theorem outcome_eq_ok {s : System} {edit : Edit α} {value : α} {t' : Tree} :
    outcome s t p edit = .ok (value, t') ↔
      (∀ step ∈ steps p, s.refusal step = none) ∧
        (∃ made, Aside.make t s.draw (directory p) = .ok made) ∧
        ∃ file l, t.openFile p = .ok file ∧ (edit.over file 0).2 = .ok value ∧
          t.place p = .ok l ∧ t' = t.put l (.file (edit.over file 0).1 file.mode) := by
  simp only [outcome, published, Result.bind_eq, Result.bind_eq_ok, Result.mapError_eq_ok,
    System.permit_eq_ok, System.openFile_eq_ok, steps, List.forall_mem_cons]
  constructor
  · rintro ⟨file, ⟨hopens, hopen⟩, _, hmetadata, made, ⟨_, hcreate, hmake⟩, _, hvalue, _, hflush, _,
      hpermissions, l, ⟨_, hrename, hplace⟩, ⟨⟩⟩
    exact ⟨⟨hopens, hmetadata, hcreate, hflush, hpermissions, hrename, nofun⟩, ⟨made, hmake⟩, file,
      l, hopen, hvalue, hplace, rfl⟩
  · rintro ⟨⟨hopens, hmetadata, hcreate, hflush, hpermissions, hrename, -⟩, ⟨made, hmake⟩, file, l,
      hopen, hvalue, hplace, rfl⟩
    exact ⟨file, ⟨hopens, hopen⟩, (), hmetadata, made, ⟨(), hcreate, hmake⟩, value, hvalue, (),
      hflush, (), hpermissions, l, ⟨(), hrename, hplace⟩, rfl⟩

/-- A file can be rewritten at a path: the system refuses no step of that, and in the directory of
the path one of the names drawn is free. -/
structure Writable (s : System) (t : Tree) (p : Path) : Prop where
  willing : ∀ step ∈ steps p, s.refusal step = none
  free : ∃ l k, t.resolve false (directory p) = .ok (.below l) ∧ k < Aside.maxDraws ∧
    t.get? (l ++ [s.draw k]) = none

/-- **What is written for a regular file is put in place**, where that can be done. -/
theorem outcome_of_writable {s : System} {edit : Edit α} {value : α} {data : Bytes} {mode : Nat}
    (hwritable : Writable s t p) (hopen : t.openFile p = .ok (.file data mode))
    (hvalue : (edit.over (.file data mode) 0).2 = .ok value) : ∃ l, t.place p = .ok l ∧
      outcome s t p edit =
        .ok (value, t.put l (.file (edit.over (.file data mode) 0).1 mode)) := by
  obtain ⟨spot, hfind⟩ := Tree.openFile_iff.mp hopen
  obtain ⟨directory, name, -, -, hholds, -⟩ := Tree.holds_of_find hfind
  obtain ⟨l, k, hresolve, hk, hfree⟩ := hwritable.free
  obtain rfl : directory = l := by
    rw [hholds.resolve_directory] at hresolve
    cases hresolve
    rfl
  refine ⟨_, hholds.place, outcome_eq_ok.mpr ⟨hwritable.willing, ?_, _, _, hopen, hvalue,
    hholds.place, rfl⟩⟩
  exact Aside.make_isOk hholds.resolve_directory hholds.inside hk hfree

end Rewrite

namespace Tree

/-- Rewriting a file among some files comes to its outcome. -/
theorem rewrite_eq {α : Type} (t : Tree) (p : Path) (edit : Edit α) (system : System) :
    t.rewrite p edit system = ((Rewrite.outcome system t p edit).map (·.1),
      Rewrite.after t (Rewrite.outcome system t p edit)) := by
  obtain ⟨w', hrun, -, htree, -⟩ :=
    Rewrite.run_plan (w := .ofTree t system) rfl rfl p edit
  rw [rewrite, hrun]
  exact congrArg _ htree

/-- The working directory is not the place of a path. -/
theorem place_ne_nil {t : Tree} {p : Path} {l : Location} (h : t.place p = .ok l) : l ≠ [] := by
  obtain ⟨⟨spot, name⟩, -, h⟩ := Result.bind_eq_ok.mp h
  simp only at h
  split at h
  · cases h
  split at h
  · cases h
  cases spot with
  | above => cases h
  | below directory =>
    simp only at h
    split at h
    · cases h
    cases h
    simp

/-- **Rewriting a file is all or nothing.** An error leaves all files as they were. The value is that
of the edit, which has read the file that was opened; then a regular file with what the edit wrote
and with the permission bits of that file stands at the place of the path, which is what opens there
if a regular file did, and what stands at every other place is what stood there. And the edit of a
regular file gives its value wherever a file can be rewritten. -/
theorem rewrite_all_or_nothing {α : Type} (system : System) (t : Tree) (p : Path)
    (edit : Edit α) :
    (∀ e, (t.rewrite p edit system).1 = .error e → (t.rewrite p edit system).2 = t) ∧
    (∀ value, (t.rewrite p edit system).1 = .ok value → ∃ file l out,
      t.openFile p = .ok file ∧ edit.over file 0 = (out, .ok value) ∧ t.place p = .ok l ∧
        (t.rewrite p edit system).2.get? l = some (.file out file.mode) ∧
        (∀ l', l' ≠ l → (t.rewrite p edit system).2.get? l' = t.get? l') ∧
        ∀ data mode, file = .file data mode →
          (t.rewrite p edit system).2.openFile p = .ok (.file out mode)) ∧
    (∀ data mode value, t.openFile p = .ok (.file data mode) →
      (edit.over (.file data mode) 0).2 = .ok value → Rewrite.Writable system t p →
        (t.rewrite p edit system).1 = .ok value) := by
  rw [rewrite_eq]
  refine ⟨fun e herror => ?_, fun value hvalue => ?_, fun data mode value hopen hvalue hwritable => ?_⟩
  · cases houtcome : Rewrite.outcome system t p edit with
    | error e' => rfl
    | ok r =>
      rw [houtcome] at herror
      cases herror
  · cases houtcome : Rewrite.outcome system t p edit with
    | error e =>
      rw [houtcome] at hvalue
      cases hvalue
    | ok r =>
      obtain ⟨value', t'⟩ := r
      rw [houtcome] at hvalue
      cases hvalue
      obtain ⟨-, -, file, l, hopen, hvalue, hplace, rfl⟩ := Rewrite.outcome_eq_ok.mp houtcome
      have hne := place_ne_nil hplace
      refine ⟨file, l, (edit.over file 0).1, hopen, Prod.ext rfl hvalue, hplace,
        get?_put_self hne, fun l' hl' => get?_put_of_ne hne hl', ?_⟩
      rintro data mode rfl
      exact openFile_put_place hopen hplace
  · obtain ⟨l, -, houtcome⟩ := Rewrite.outcome_of_writable hwritable hopen hvalue
    rw [houtcome]
    rfl

/-- A link is replaced itself, and the file that it leads to stays. -/
example :
    let t : Tree := ⟨[([[103]], .link [102]), ([[102]], .file [97] 0o640)]⟩
    (t.rewrite [103] (.ofBytes [98] none)).2.get? [[103]] = some (.file [98] 0o640) ∧
      (t.rewrite [103] (.ofBytes [98] none)).2.get? [[102]] = some (.file [97] 0o640) := by
  decide

end Tree
end StreamEditor
