/-
# A file aside holds what is written to it

While a file stands aside, the tree is the one from before with that file in addition
(`Aside.Holding`). Each operation on the file keeps this: writing to it makes it longer, removing it
gives the tree from before again, and moving it puts its content in place of what a path names last.
So an edit reads the file that was opened as it was, however much it has written
(`Edit.run_toPlan`): what it comes to is a matter of that content alone (`Edit.over`).

Key definitions: `Aside.Holding`, `Edit.over`, `World.Around`, `World.Editing`.
Key theorems: `Aside.Holding.move`, `Aside.Holding.remove`, `Edit.run_toPlan`.
-/
import StreamEditor.Proofs.Files.Place

namespace StreamEditor

/-! ### The file aside -/

namespace Aside

/-- The second tree is the first one with a file made aside, which holds some bytes and has some
permission bits. -/
inductive Holding (t : Tree) (data : Bytes) (mode : Nat) : Aside → Tree → Prop
  | within {l : Location} : l ≠ [] → t.get? l = none →
      Holding t data mode (.within l) (t.put l (.file data mode))
  | beyond : Holding t data mode (.beyond data mode) t

variable {t t' : Tree} {data : Bytes} {mode : Nat} {a : Aside}

theorem get?_freeName {draw : Nat → Name} {directory : Location} {name : Name} :
    ∀ {count n : Nat}, freeName t draw directory count n = some name →
      t.get? (directory ++ [name]) = none
  | 0, _, h => by cases h
  | count + 1, n, h => by
    rw [freeName] at h
    by_cases hfree : (t.get? (directory ++ [draw n])).isNone = true
    · rw [if_pos hfree] at h
      cases h
      exact Option.isNone_iff_eq_none.mp hfree
    · rw [if_neg hfree] at h
      exact get?_freeName h

/-- A name is found if one of those drawn is free. -/
theorem freeName_isSome {draw : Nat → Name} {directory : Location} {k : Nat}
    (hfree : t.get? (directory ++ [draw k]) = none) :
    ∀ {count n : Nat}, n ≤ k → k < n + count →
      (freeName t draw directory count n).isSome = true
  | 0, n, hn, hk => by omega
  | count + 1, n, hn, hk => by
    rw [freeName]
    by_cases h : (t.get? (directory ++ [draw n])).isNone = true
    · rw [if_pos h]
      rfl
    · rw [if_neg h]
      refine freeName_isSome hfree ?_ (by omega)
      rcases Nat.lt_or_eq_of_le hn with hlt | rfl
      · exact hlt
      · exact absurd (Option.isNone_iff_eq_none.mpr hfree) h

/-- A file made aside is empty. -/
theorem Holding.make {draw : Nat → Name} {directory : Path}
    (h : Aside.make t draw directory = .ok (a, t')) : Holding t [] newMode a t' := by
  unfold Aside.make at h
  cases hspot : t.resolve false directory with
  | error e =>
    rw [hspot] at h
    cases h
  | ok spot =>
    rw [hspot] at h
    cases spot with
    | above =>
      cases h
      exact .beyond
    | below l =>
      change (if (t.get? l == some .directory) = true then _ else _) = _ at h
      by_cases hdir : (t.get? l == some .directory) = true
      · rw [if_pos hdir] at h
        cases hname : freeName t draw l maxDraws 0 with
        | none =>
          rw [hname] at h
          cases h
        | some name =>
          rw [hname] at h
          cases h
          exact .within (by simp) (get?_freeName hname)
      · rw [if_neg hdir] at h
        cases h

/-- A file can be made aside in a directory in which a name is free. -/
theorem make_isOk {draw : Nat → Name} {directory : Path} {l : Location} {k : Nat}
    (hdir : t.resolve false directory = .ok (.below l)) (hl : t.get? l = some .directory)
    (hk : k < maxDraws) (hfree : t.get? (l ++ [draw k]) = none) :
    ∃ made, Aside.make t draw directory = .ok made := by
  obtain ⟨name, hname⟩ := Option.isSome_iff_exists.mp
    (freeName_isSome hfree (Nat.zero_le k) (by omega : k < 0 + maxDraws))
  refine ⟨(.within (l ++ [name]), t.put (l ++ [name]) (.file [] newMode)), ?_⟩
  rw [Aside.make, hdir]
  change (if (t.get? l == some .directory) = true then _ else _) = _
  rw [hl, beq_self_eq_true, if_pos rfl, hname]

theorem Holding.append (h : Holding t data mode a t') (more : Bytes) :
    Holding t (data ++ more) mode (a.append t' more).1 (a.append t' more).2 := by
  cases h with
  | within hl hfree =>
    rw [Aside.append, Tree.append_put hl]
    exact .within hl hfree
  | beyond => exact .beyond

theorem Holding.setMode (h : Holding t data mode a t') (mode' : Nat) :
    Holding t data mode' (a.setMode t' mode').1 (a.setMode t' mode').2 := by
  cases h with
  | within hl hfree =>
    rw [Aside.setMode, Tree.setMode_put hl]
    exact .within hl hfree
  | beyond => exact .beyond

/-- **Removing the file aside** gives the tree from before. -/
theorem Holding.remove (h : Holding t data mode a t') : a.remove t' = t := by
  cases h with
  | within hl hfree => exact Tree.erase_put hl hfree _
  | beyond => rfl

theorem Holding.entry? (h : Holding t data mode a t') :
    a.entry? t' = some (.file data mode) := by
  cases h with
  | within hl _ => exact Tree.get?_put_self hl
  | beyond => rfl

/-- What can be opened stands where it stood, -/
theorem Holding.at? (h : Holding t data mode a t') {spot : Spot} {opened : Tree.Opened}
    (hat : t.at? spot = some opened) : t'.at? spot = some opened := by
  cases h with
  | beyond => exact hat
  | @within l hl hfree =>
    cases spot with
    | above => exact hat
    | below l' =>
      have hne : l' ≠ l := by
        rintro rfl
        rw [Tree.at?, hfree] at hat
        cases hat
      rw [Tree.at?, Tree.get?_put_of_ne hl hne]
      exact hat

/-- and its path has the same place. -/
theorem Holding.place (h : Holding t data mode a t') {p : Path} {found : Spot × Tree.Opened}
    (hp : t.find p = .ok found) : t'.place p = t.place p := by
  cases h with
  | within hl hfree => exact Tree.place_put_aside hl hfree hp
  | beyond => rfl

/-- **Moving the file aside** puts it in place of what a path names last, and leaves nothing
behind. -/
theorem Holding.move (h : Holding t data mode a t') {p : Path} {found : Spot × Tree.Opened}
    (hp : t.find p = .ok found) :
    a.move t' p = (t.place p).map fun l => (l, t.put l (.file data mode)) := by
  unfold Aside.move
  simp only [h.place hp, h.entry?, h.remove]
  cases t.place p <;> rfl

end Aside

/-! ### Edits -/

/-- What an edit comes to over a file of which `position` bytes are read: the bytes that it writes,
and its value or its error. -/
def Edit.over {α : Type} (opened : Tree.Opened) : Edit α → Nat → Bytes × Except EditError α
  | .done result, _ => ([], result)
  | .read most next, position =>
    let answer := opened.read position most
    (next answer).over opened (position + (answer.toOption.map List.length).getD 0)
  | .write data next, position =>
    (data ++ (next.over opened position).1, (next.over opened position).2)
  | .log _ next, position => next.over opened position

/-- Reading all of a file from its beginning gives its content. -/
theorem Tree.Opened.read_all (file : Opened) : file.read 0 none = file.content := by
  cases file <;> rfl

theorem Source.ofContent_content (file : Tree.Opened) : ofContent file.content = file.source := by
  cases file <;> rfl

/-- The edit of a processor comes to its run over the file that was opened. -/
theorem Processor.over_toEdit (p : Processor) (file : Tree.Opened) :
    p.toEdit.over file 0 =
      ((p.run file.source .unlimited).out, (p.run file.source .unlimited).result) := by
  change ((p.run (.ofContent (file.read 0 none)) .unlimited).out ++ [],
    (p.run (.ofContent (file.read 0 none)) .unlimited).result) = _
  rw [file.read_all, Source.ofContent_content, List.append_nil]

namespace World

/-- Two worlds that differ at most in the files and in what is open for reading or made aside. -/
structure Around (w w' : World) : Prop where
  input : w'.input = w.input
  output : w'.output = w.output
  complaints : w'.complaints = w.complaints
  log : w'.log = w.log
  stamp : w'.stamp = w.stamp
  system : w'.system = w.system

theorem Around.refl (w : World) : Around w w := ⟨rfl, rfl, rfl, rfl, rfl, rfl⟩

theorem Around.trans {w w' w'' : World} (h : Around w w') (h' : Around w' w'') : Around w w'' :=
  ⟨h'.input.trans h.input, h'.output.trans h.output, h'.complaints.trans h.complaints,
    h'.log.trans h.log, h'.stamp.trans h.stamp, h'.system.trans h.system⟩

/-- A world in the middle of an edit, without a log: of a file of the tree `t` so many bytes are
read, and so many bytes are written to a file aside. -/
structure Editing (t : Tree) (opened : Tree.Opened) (mode position : Nat) (written : Bytes)
    (w : World) : Prop where
  log : w.log = none
  reading : ∃ spot, w.reading = some ⟨spot, position⟩ ∧ t.at? spot = some opened
  aside : ∃ a, w.aside = some a ∧ a.Holding t written mode w.tree

variable {t : Tree} {file : Tree.Opened} {mode position : Nat} {written : Bytes} {w : World}

/-- What is open for reading is what stands where it was opened. -/
theorem opened_of_reading {r : Reading} (hreading : w.reading = some r)
    (hat : w.tree.at? r.spot = some file) : w.opened = .ok file := by
  rw [World.opened, hreading]
  simp only [Option.bind_some, hat]

theorem Editing.opened (h : Editing t file mode position written w) : w.opened = .ok file := by
  obtain ⟨spot, hreading, hat⟩ := h.reading
  obtain ⟨a, -, hholding⟩ := h.aside
  exact opened_of_reading hreading (hholding.at? hat)

/-- Reading gives what stood in the file when it was opened. -/
theorem Editing.read (h : Editing t file mode position written w) (most : Option Nat) :
    (w.read most).1 = file.read position most ∧ Around w (w.read most).2 ∧
      Editing t file mode
        (position + ((file.read position most).toOption.map List.length).getD 0) written
        (w.read most).2 := by
  obtain ⟨spot, hreading, hat⟩ := h.reading
  have hanswer : w.opened.bind (·.read ((w.reading.map (·.position)).getD 0) most) =
      file.read position most := by
    rw [h.opened, hreading]
    rfl
  rw [World.read, hanswer, hreading]
  cases hread : file.read position most with
  | error e => exact ⟨rfl, .refl w, h.log, ⟨spot, hreading, hat⟩, h.aside⟩
  | ok data => exact ⟨rfl, ⟨rfl, rfl, rfl, rfl, rfl, rfl⟩, h.log, ⟨spot, rfl, hat⟩, h.aside⟩

theorem Editing.write (h : Editing t file mode position written w) (data : Bytes) :
    Around w (w.write data) ∧ Editing t file mode position (written ++ data) (w.write data) := by
  obtain ⟨a, haside, hholding⟩ := h.aside
  rw [World.write, haside]
  exact ⟨⟨rfl, rfl, rfl, rfl, rfl, rfl⟩, h.log, h.reading, _, rfl, hholding.append data⟩

theorem Editing.setMode (h : Editing t file mode position written w) (mode' : Nat) :
    ∃ w', w.setMode mode' = (w.system.permit .permissions).map (fun _ => w') ∧ Around w w' ∧
      Editing t file mode' position written w' := by
  obtain ⟨a, haside, hholding⟩ := h.aside
  rw [World.setMode, haside]
  refine ⟨{ w with
    tree := (a.setMode w.tree mode').2
    aside := some (a.setMode w.tree mode').1 }, ?_, ⟨rfl, rfl, rfl, rfl, rfl, rfl⟩, h.log, h.reading,
    _, rfl, hholding.setMode mode'⟩
  cases w.system.permit .permissions <;> rfl

/-- Moving the file aside puts what was written in place of what a path names last. -/
theorem Editing.rename (h : Editing t file mode position written w) {p : Path}
    {found : Spot × Tree.Opened} (hp : t.find p = .ok found) : ∃ next : Location → World,
      w.rename p = ((w.system.permit .rename).bind fun _ => t.place p).map next ∧
        ∀ l, Around w (next l) ∧ (next l).tree = t.put l (.file written mode) ∧
          (next l).aside = none := by
  obtain ⟨a, haside, hholding⟩ := h.aside
  rw [World.rename, haside, h.log]
  refine ⟨fun l => { w with tree := t.put l (.file written mode), aside := none, log := none }, ?_,
    fun l => ⟨⟨rfl, rfl, rfl, h.log.symm, rfl, rfl⟩, rfl, rfl⟩⟩
  cases w.system.permit .rename with
  | error cause => rfl
  | ok _ =>
    change (a.move w.tree p).bind _ = _
    rw [hholding.move hp]
    cases t.place p <;> rfl

/-- Removing the file aside gives the files from before. -/
theorem Editing.removeAside (h : Editing t file mode position written w) :
    Around w w.removeAside ∧ w.removeAside.tree = t ∧ w.removeAside.aside = none := by
  obtain ⟨a, haside, hholding⟩ := h.aside
  rw [World.removeAside, haside]
  exact ⟨⟨rfl, rfl, rfl, rfl, rfl, rfl⟩, hholding.remove, rfl⟩

/-- The permission bits of the file that is open for reading are those it has. -/
theorem fileMode_eq (h : w.opened = .ok file) :
    w.fileMode = (w.system.permit .metadata).map fun _ => file.mode := by
  rw [World.fileMode, h]
  change (w.system.permit .metadata).bind _ = _
  cases w.system.permit .metadata <;> rfl

/-- A file made aside begins an edit of the file that is open for reading. -/
theorem makeAside_eq (hlog : w.log = none) {spot : Spot} (hreading : w.reading = some ⟨spot, 0⟩)
    (hat : w.tree.at? spot = some file) (directory : Path) : ∃ next : Aside × Tree → World,
      w.makeAside directory = ((w.system.permit .create).bind fun _ =>
        Aside.make w.tree w.system.draw directory).map next ∧
      ∀ made, ((w.system.permit .create).bind fun _ =>
          Aside.make w.tree w.system.draw directory) = .ok made →
        Around w (next made) ∧ Editing w.tree file Aside.newMode 0 [] (next made) := by
  refine ⟨fun made => { w with tree := made.2, aside := some made.1 }, ?_, fun made hmade => ?_⟩
  · rw [World.makeAside]
    cases w.system.permit .create with
    | error cause => rfl
    | ok _ =>
      change (Aside.make w.tree w.system.draw directory).bind _ = _
      cases Aside.make w.tree w.system.draw directory <;> rfl
  · refine ⟨⟨rfl, rfl, rfl, rfl, rfl, rfl⟩, hlog, ⟨spot, hreading, hat⟩, made.1, rfl, ?_⟩
    cases hpermit : w.system.permit .create with
    | error cause =>
      rw [hpermit] at hmade
      cases hmade
    | ok _ =>
      rw [hpermit] at hmade
      exact .make hmade

theorem note_of_log_none (h : w.log = none) (line : String) : w.note line = w := by
  rw [World.note, h]

end World

/-- **An edit comes to what it comes to over the file that was opened**, and what it writes is in
the file aside. -/
theorem Edit.run_toPlan {α : Type} {t : Tree} {opened : Tree.Opened} {mode : Nat} (edit : Edit α) :
    ∀ {w : World} {position : Nat} {written : Bytes},
      w.Editing t opened mode position written → ∃ w' position',
        World.run edit.toPlan w = ((edit.over opened position).2, w') ∧ w.Around w' ∧
          w'.Editing t opened mode position' (written ++ (edit.over opened position).1) := by
  induction edit with
  | done result =>
    intro w position written h
    exact ⟨w, position, rfl, .refl w, by rwa [Edit.over, List.append_nil]⟩
  | read most next ih =>
    intro w position written h
    obtain ⟨hanswer, haround, hediting⟩ := h.read most
    obtain ⟨w', position', hrun, haround', hediting'⟩ := ih (opened.read position most) hediting
    refine ⟨w', position', ?_, haround.trans haround', hediting'⟩
    change World.run (next (w.read most).1).toPlan (w.read most).2 = _
    rw [hanswer]
    exact hrun
  | write data next ih =>
    intro w position written h
    obtain ⟨haround, hediting⟩ := h.write data
    obtain ⟨w', position', hrun, haround', hediting'⟩ := ih hediting
    refine ⟨w', position', ?_, haround.trans haround', ?_⟩
    · rw [Edit.toPlan, World.run]
      exact hrun
    · rw [Edit.over, ← List.append_assoc]
      exact hediting'
  | log line next ih =>
    intro w position written h
    obtain ⟨w', position', hrun, haround, hediting⟩ := ih h
    refine ⟨w', position', ?_, haround, hediting⟩
    rw [Edit.toPlan, World.run, World.note_of_log_none h.log]
    exact hrun

end StreamEditor
