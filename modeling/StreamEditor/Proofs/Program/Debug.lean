/-
# Editing with a log

Opening the log makes the directory for it, and the log itself if there is none (`Program.logged`).
If the directory cannot be made the program gives up; a log that does not open, or that the system
does not let be opened, is done without. As long as the program does not give up, an edit comes to
the same with a log as without one, and the files are the same but for the log and what is made for
it.

Two facts make up the argument. With the log open, a run keeps beside the run without one over the
files as they are then (`Program.execute_beside`). And without a log, a run over files among which
there is more than before comes to the same (`Program.execute_grown`).

Key definitions: `Program.logged`, `Program.ApartFrom`, `Program.EndAlike`.
Key theorems: `Program.execute_grown`, `Program.run_plan_debug`.
-/
import StreamEditor.Proofs.CommandLine.Debugging
import StreamEditor.Proofs.Directive.DoubleSpace
import StreamEditor.Proofs.Files.Making
import StreamEditor.Proofs.Program.Failures
import StreamEditor.Proofs.Program.Journal
import StreamEditor.Proofs.Program.Routes

namespace StreamEditor
namespace Program

open CommandLine (debugArgument hyphen)

variable {args : Arguments} {config : Config} {i : Invocation} {w w' : World}

/-! ### Opening the log -/

/-- What opening the log comes to on the files: its place if it opens, and the files with what is
made for it; or why the program gives up. -/
def logged (s : System) (home : Option Path) (t : Tree) :
    Except Failure (Option Location × Tree) :=
  match home with
  | none => .error .noHome
  | some home => do
    let t ← (s.makeDirectories t (Home.directory home)).mapError
      (.logDirectory (Home.directory home))
    match s.openLog t (Home.log home) with
    | .ok (l, t) => .ok (some l, t)
    | .error _ => .ok (none, t)

/-- Opening the log makes the directory for it, and then opens the log among the files as they are
then, or leaves them so. -/
theorem eq_of_logged {s : System} {home : Option Path} {t grown : Tree} {place : Option Location}
    (h : logged s home t = .ok (place, grown)) : ∃ path made, home = some path ∧
      t.makeDirectories (Home.directory path) = .ok made ∧
        ((place = none ∧ grown = made) ∨
          ∃ l, place = some l ∧ made.openEnd (Home.log path) = .ok (l, grown)) := by
  cases home with
  | none => cases h
  | some path =>
    obtain ⟨made, hmade, h⟩ := Result.bind_eq_ok.mp h
    obtain ⟨_, -, hmade⟩ := Result.bind_eq_ok.mp (Result.mapError_eq_ok.mp hmade)
    refine ⟨path, made, rfl, hmade, ?_⟩
    cases hopen : s.openLog made (Home.log path) with
    | error cause =>
      rw [hopen] at h
      cases h
      exact .inl ⟨rfl, rfl⟩
    | ok opened =>
      rw [hopen] at h
      cases h
      obtain ⟨_, -, hopen⟩ := Result.bind_eq_ok.mp hopen
      exact .inr ⟨_, rfl, hopen⟩

theorem logged_grows {s : System} {home : Option Path} {t grown : Tree} {place : Option Location}
    (h : logged s home t = .ok (place, grown)) :
    t.Grows grown ∧ ∀ l, place = some l → grown.get? l ≠ none := by
  obtain ⟨path, made, -, hmade, ⟨rfl, rfl⟩ | ⟨l, rfl, hopen⟩⟩ := eq_of_logged h
  · exact ⟨Tree.makeDirectories_grows hmade, nofun⟩
  · obtain ⟨hgrows, htaken⟩ := Tree.openEnd_grows hopen
    refine ⟨(Tree.makeDirectories_grows hmade).trans hgrows, ?_⟩
    rintro l ⟨⟩
    exact htaken

/-- The home directory is there, and no link stands in it for the directory of the log, or in that
for the log. -/
structure AtHome (t : Tree) (home : Option Path) (here : Location) : Prop where
  leads : ∃ path, home = some path ∧ t.resolve false path = .ok (.below here)
  inside : t.get? here = some .directory
  unlinked : ∀ target, t.get? (here ++ [bytesOf ".ccsed"]) ≠ some (.link target)
  unlinked' : ∀ target,
    t.get? (here ++ [bytesOf ".ccsed"] ++ [bytesOf "ccsed.log"]) ≠ some (.link target)

/-- **What is made for the log** is made in one directory of the home directory. -/
theorem logged_atHome {s : System} {home : Option Path} {t grown : Tree}
    {place : Option Location} {here : Location} (h : logged s home t = .ok (place, grown))
    (hhome : AtHome t home here) {l : Location} (hl : ¬ here ++ [bytesOf ".ccsed"] <+: l) :
    place ≠ some l ∧ grown.get? l = t.get? l := by
  have hdirectory : Path.Plain (bytesOf ".ccsed") := by constructor <;> decide
  have hlog : Path.Plain (bytesOf "ccsed.log") := by constructor <;> decide
  have hl' : l ≠ here ++ [bytesOf ".ccsed"] := fun heq => hl (heq ▸ List.prefix_refl _)
  obtain ⟨path, rfl, hleads⟩ := hhome.leads
  obtain ⟨_, made, ⟨⟩, hmake, hopened⟩ := eq_of_logged h
  have hgrows := Tree.makeDirectories_grows hmake
  have hsame : made.get? l = t.get? l ∧
      (∀ target, made.get? (here ++ [bytesOf ".ccsed"]) ≠ some (.link target)) ∧
      ∀ target, made.get? (here ++ [bytesOf ".ccsed"] ++ [bytesOf "ccsed.log"]) ≠
        some (.link target) := by
    obtain rfl | rfl := Tree.makeDirectories_join hleads hhome.inside hdirectory hmake
    · exact ⟨rfl, hhome.unlinked, hhome.unlinked'⟩
    · refine ⟨Tree.get?_put_of_ne (by simp) hl', ?_, ?_⟩
      · rw [Tree.get?_put_self (by simp)]
        exact nofun
      · rw [Tree.get?_put_of_ne (by simp) (by simp)]
        exact hhome.unlinked'
  obtain ⟨hmade, hunlinked, hunlinked'⟩ := hsame
  obtain ⟨rfl, rfl⟩ | ⟨l', rfl, hopen⟩ := hopened
  · exact ⟨nofun, hmade⟩
  · have hplace := Tree.openEnd_join (hgrows.resolve hleads) hdirectory hlog hunlinked hunlinked'
      hopen
    have hne : l ≠ l' := fun heq => hl (heq ▸ hplace ▸ List.prefix_append _ _)
    refine ⟨fun heq => hne (Option.some.inj heq).symm, ?_⟩
    obtain ⟨rfl, -⟩ | ⟨hnonempty, -, rfl⟩ := Tree.eq_or_eq_put_of_openEnd hopen
    · exact hmade
    · rw [Tree.get?_put_of_ne hnonempty hne, hmade]

/-- If the directory for the log cannot be made, nothing is done. -/
theorem run_openLog_of_error {f : Failure} (h : logged w.system i.home w.tree = .error f) :
    World.run (openLog i) w = (.error f, w) := by
  unfold openLog
  cases hhome : i.home with
  | none =>
    rw [hhome] at h
    cases h
    rfl
  | some home =>
    rw [hhome, logged, Result.bind_eq_error] at h
    rcases h with h | ⟨made, hmade, h⟩
    · obtain ⟨cause, hmake, rfl⟩ := Result.mapError_eq_error.mp h
      simp only [World.run, hmake]
      rfl
    · split at h <;> cases h

/-- The second world is the first one with the files that there are once the log was opened. -/
structure Opened (grown : Tree) (w w' : World) : Prop where
  tree : w'.tree = grown
  input : w'.input = w.input
  output : w'.output = w.output
  log : w'.log = none
  aside : w'.aside = none
  system : w'.system = w.system

theorem Opened.get? {grown : Tree} (h : Opened grown w w') {l : Location}
    (hl : grown.get? l = w.tree.get? l) : w'.tree.get? l = w.tree.get? l := by
  rw [h.tree, hl]

/-- If the log opens, the run goes on beside one without it, over the files as they are then. -/
theorem run_openLog_of_ok {place : Option Location} {grown : Tree} (hlog : w.log = none)
    (haside : w.aside = none) (h : logged w.system i.home w.tree = .ok (place, grown)) : ∃ j loud quiet,
      World.run (openLog i) w = (.ok j, loud) ∧ Opened grown w quiet ∧
        (place = none → j = none ∧ loud = quiet) ∧
        ∀ l, place = some l → World.Beside l loud quiet := by
  have htaken := (logged_grows h).2
  unfold openLog
  cases hhome : i.home with
  | none =>
    rw [hhome] at h
    cases h
  | some home =>
    rw [hhome] at h
    obtain ⟨made, hmade, h⟩ := Result.bind_eq_ok.mp h
    have hmake := Result.mapError_eq_ok.mp hmade
    cases hopen : w.system.openLog made (Home.log home) with
    | error cause =>
      rw [hopen] at h
      cases h
      let quiet : World := { w with
        tree := grown
        complaints := w.complaints ++ bytesOf ("Warning: Could not open log file " ++
          Path.text (Home.log home) ++ ": " ++ cause.message ++ "\n") }
      refine ⟨none, quiet, quiet, ?_, ⟨rfl, rfl, rfl, hlog, haside, rfl⟩,
        fun _ => ⟨rfl, rfl⟩, fun l hl => by cases hl⟩
      simp only [World.run, hmake, Except.map, World.settle, hopen]
      rfl
    | ok opened =>
      obtain ⟨l, t⟩ := opened
      rw [hopen] at h
      cases h
      have hbeside : World.Beside l { w with tree := grown, log := some l }
          { w with tree := grown } :=
        ⟨.refl (htaken l rfl), .inr rfl, hlog, rfl, rfl, rfl, rfl, by simp [haside], rfl⟩
      let journal : Journal := some (Log.Filter.ofText i.filter)
      have hnoted := note_beside journal hbeside [.opened (Home.log home)]
      refine ⟨journal, (World.run (note journal [.opened (Home.log home)])
        { w with tree := grown, log := some l }).2, { w with tree := grown }, ?_,
        ⟨rfl, rfl, rfl, hlog, haside, rfl⟩, (fun hnone => by cases hnone), ?_⟩
      · simp only [World.run, hmake, Except.map, World.settle, hopen]
        exact World.run_bind _ _ _
      · rintro l ⟨⟩
        exact hnoted.beside

/-! ### Runs that end alike -/

/-- Two runs that end with the same status and have written the same, and whose files are the same
at some places. -/
structure EndAlike (same : Location → Prop) (final final' : Nat × World) : Prop where
  status : final.1 = final'.1
  output : final.2.output = final'.2.output
  tree : ∀ l, same l → final.2.tree.get? l = final'.2.tree.get? l

namespace EndAlike

variable {same same' : Location → Prop} {final final' final'' : Nat × World}

theorem refl (same : Location → Prop) (final : Nat × World) : EndAlike same final final :=
  ⟨rfl, rfl, fun _ _ => rfl⟩

theorem mono (h : EndAlike same final final') (hsame : ∀ l, same' l → same l) :
    EndAlike same' final final' :=
  ⟨h.status, h.output, fun l hl => h.tree l (hsame l hl)⟩

theorem trans (h : EndAlike same final final') (h' : EndAlike same' final' final'') :
    EndAlike (fun l => same l ∧ same' l) final final'' :=
  ⟨h.status.trans h'.status, h.output.trans h'.output,
    fun l hl => (h.tree l hl.1).trans (h'.tree l hl.2)⟩

end EndAlike

/-- The status with which the program ends after an execution, and the world after it. -/
def ended (answer : Except EditError Stats × World) : Nat × World :=
  (status (answer.1.mapError .edit), answer.2)

/-- Runs that end beside each other end alike but for the log. -/
theorem endAlike_of_beside {l : Location} {loud quiet : Except EditError Stats × World}
    (h : World.EndBeside l loud quiet) : EndAlike (· ≠ l) (ended loud) (ended quiet) :=
  ⟨by rw [ended, ended, h.value], h.beside.output, h.beside.tree.off⟩

/-! ### More files -/

/-- Opening what is no regular file fails, sooner or later, and nothing is done. -/
theorem edit_unopened {path : Path} {p : Processor} (hlog : w.log = none) (haside : w.aside = none)
    (hfile : args.file = some path)
    (hopen : ∀ data mode, w.system.openFile w.tree path ≠ .ok (.file data mode)) :
    EndAlike (fun _ => True) (ended (World.run (edit none args p) w)) (1, w) := by
  cases hopened : w.system.openFile w.tree path with
  | error cause =>
    rw [run_edit_unopened hfile hopened]
    exact ⟨rfl, rfl, fun _ _ => rfl⟩
  | ok opened =>
    cases opened with
    | file data mode => exact absurd hopened (hopen data mode)
    | directory =>
      -- A directory opens, and cannot be read.
      have hread : (p.run (.ofContent Tree.Opened.directory.content) .unlimited).result =
          .error (.read 0 .isDirectory) := rfl
      cases hplace : args.inPlace with
      | false =>
        obtain ⟨r, hrun⟩ := run_edit_file (p := p) hfile hplace hopened
        rw [hrun, hread]
        exact ⟨rfl, List.append_nil _, fun _ _ => rfl⟩
      | true =>
        obtain ⟨w', hrun, haround, htree⟩ := run_edit_inPlace (p := p) hfile hplace hlog haside
        rw [hrun]
        cases houtcome : Rewrite.outcome w.system w.tree path p.toEdit with
        | error e =>
          rw [houtcome] at htree
          have hcode := Rewrite.exitCode_of_outcome (fun file e he => ?_) houtcome
          · exact ⟨hcode, haround.output, fun l _ => congrArg (·.get? l) htree⟩
          · rw [Processor.over_toEdit] at he
            exact Processor.exitCode_of_run he
        | ok rewritten =>
          obtain ⟨-, -, file, l, hopen', hvalue, -⟩ := Rewrite.outcome_eq_ok.mp houtcome
          have hopens := (System.openFile_eq_ok.mp hopened).2
          obtain rfl := Except.ok.inj (hopens.symm.trans hopen')
          rw [Processor.over_toEdit, ← Source.ofContent_content, hread] at hvalue
          cases hvalue

/-- **An edit comes to the same** over files among which there is more than before, as long as it
does not open a regular file that was not there. -/
theorem edit_opened {grown : Tree} {p : Processor} (hlog : w.log = none) (haside : w.aside = none)
    (h : Opened grown w w') (hgrows : w.tree.Grows grown)
    (hfree : Aside.KeepsFree w.system.draw w.tree grown)
    (hfile : ∀ path, args.file = some path → ∀ spot data mode,
      grown.find path = .ok (spot, .file data mode) →
        w.tree.find path = .ok (spot, .file data mode)) :
    EndAlike (fun l => grown.get? l = w.tree.get? l) (ended (World.run (edit none args p) w'))
      (ended (World.run (edit none args p) w)) := by
  cases hargs : args.file with
  | none =>
    rw [run_edit_input hargs, run_edit_input hargs, h.input, h.output]
    exact ⟨rfl, rfl, fun _ => h.get?⟩
  | some path =>
    by_cases hopen : ∃ data mode, w.system.openFile w.tree path = .ok (.file data mode)
    · obtain ⟨data, mode, hopen⟩ := hopen
      have hopen' : w'.system.openFile w'.tree path = .ok (.file data mode) := by
        obtain ⟨hpermit, hopens⟩ := System.openFile_eq_ok.mp hopen
        rw [h.tree, h.system]
        exact System.openFile_eq_ok.mpr ⟨hpermit, hgrows.openFile hopens⟩
      cases hplace : args.inPlace with
      | false =>
        obtain ⟨r, hrun⟩ := run_edit_file (p := p) hargs hplace hopen
        obtain ⟨r', hrun'⟩ := run_edit_file (p := p) hargs hplace hopen'
        rw [hrun, hrun', h.output]
        exact ⟨rfl, rfl, fun _ => h.get?⟩
      | true =>
        obtain ⟨v, hrun, haround, htree⟩ := run_edit_inPlace (p := p) hargs hplace hlog haside
        obtain ⟨v', hrun', haround', htree'⟩ :=
          run_edit_inPlace (p := p) hargs hplace h.log h.aside
        obtain ⟨x, l, e, hl, hx, hx'⟩ := Rewrite.outcome_of_grows hgrows hfree hopen p.toEdit
        rw [hx] at hrun htree
        rw [h.tree, h.system, hx'] at hrun' htree'
        rw [hrun, hrun']
        cases x with
        | error e =>
          refine ⟨rfl, haround'.output.trans (h.output.trans haround.output.symm), fun l' hl' => ?_⟩
          exact (congrArg (·.get? l') htree').trans (hl'.trans (congrArg (·.get? l') htree.symm))
        | ok value =>
          refine ⟨rfl, haround'.output.trans (h.output.trans haround.output.symm), fun l' hl' => ?_⟩
          refine (congrArg (·.get? l') htree').trans (.trans ?_ (congrArg (·.get? l') htree.symm))
          change (grown.put l e).get? l' = (w.tree.put l e).get? l'
          rw [Tree.get?_put hl, Tree.get?_put hl, hl']
    · have hopen' : ∀ data mode, w'.system.openFile w'.tree path ≠ .ok (.file data mode) := by
        intro data mode hopen'
        rw [h.tree, h.system] at hopen'
        obtain ⟨hpermit, hopens⟩ := System.openFile_eq_ok.mp hopen'
        obtain ⟨spot, hfind⟩ := Tree.openFile_iff.mp hopens
        have hthere := Tree.openFile_iff.mpr ⟨spot, hfile path hargs _ _ _ hfind⟩
        exact hopen ⟨data, mode, System.openFile_eq_ok.mpr ⟨hpermit, hthere⟩⟩
      have hfails := edit_unopened (p := p) hlog haside hargs fun data mode hfile =>
        hopen ⟨data, mode, hfile⟩
      have hfails' := edit_unopened (p := p) h.log h.aside hargs hopen'
      refine ⟨hfails'.status.trans hfails.status.symm, ?_, fun l hl => ?_⟩
      · exact hfails'.output.trans (h.output.trans hfails.output.symm)
      · exact (hfails'.tree l trivial).trans ((h.get? hl).trans (hfails.tree l trivial).symm)

/-- So does the execution of a directive. -/
theorem execute_opened {grown : Tree} (config : Config) (hlog : w.log = none) (haside : w.aside = none)
    (h : Opened grown w w') (hgrows : w.tree.Grows grown)
    (hfree : Aside.KeepsFree w.system.draw w.tree grown)
    (hfile : ∀ path, args.file = some path → ∀ spot data mode,
      grown.find path = .ok (spot, .file data mode) →
        w.tree.find path = .ok (spot, .file data mode)) :
    EndAlike (fun l => grown.get? l = w.tree.get? l)
      (ended (World.run (execute none args config) w'))
      (ended (World.run (execute none args config) w)) := by
  cases hmeant : meant args config with
  | error e =>
    rw [run_execute_of_error hmeant, run_execute_of_error hmeant]
    exact ⟨rfl, h.output, fun _ => h.get?⟩
  | ok s =>
    rw [run_execute_of_ok hmeant, run_execute_of_ok hmeant]
    exact edit_opened hlog haside h hgrows hfree hfile

/-! ### Both together -/

/-- A path that does not lead to the log and, unless the directory for the log is there, leads to no
regular file that it did not lead to before the log was opened. -/
structure ApartFrom (home : Option Path) (place : Option Location) (t grown : Tree) (path : Path) :
    Prop where
  elsewhere : ∀ l opened, place = some l → grown.find path ≠ .ok (.below l, opened)
  before : (∀ outer, home = some outer → t.makeDirectories (Home.directory outer) ≠ .ok t) →
    ∀ spot data mode, grown.find path = .ok (spot, .file data mode) →
      t.find path = .ok (spot, .file data mode)

/-- Where the directory for the log is there, any path does that does not lead to the log: at most
the log itself is made. -/
theorem ApartFrom.find {s : System} {home : Option Path} {place : Option Location} {t grown : Tree}
    {path : Path} (hapart : ApartFrom home place t grown path)
    (h : logged s home t = .ok (place, grown)) {spot : Spot} {data : Bytes} {mode : Nat}
    (hfind : grown.find path = .ok (spot, .file data mode)) :
    t.find path = .ok (spot, .file data mode) := by
  obtain ⟨outer, made, rfl, hmade, hopened⟩ := eq_of_logged h
  by_cases hthere : made = t
  · subst hthere
    obtain ⟨-, rfl⟩ | ⟨l, rfl, hopen⟩ := hopened
    · exact hfind
    obtain ⟨rfl, -⟩ | ⟨hl, -, rfl⟩ := Tree.eq_or_eq_put_of_openEnd hopen
    · exact hfind
    · refine Tree.find_of_put_file hl ?_ hfind
      rintro rfl
      exact hapart.elsewhere l _ rfl hfind
  · refine hapart.before (fun outer' houter hsame => hthere ?_) _ _ _ hfind
    cases houter
    exact Except.ok.inj (hmade.symm.trans hsame)

/-- What the program does once the log was opened, and what it does without. -/
theorem execute_logged {place : Option Location} {grown : Tree} (config : Config)
    (hreads : w.Reads w') (hlog : w.log = none) (haside : w.aside = none)
    (h : logged w.system i.home w.tree = .ok (place, grown))
    (hfree : Aside.KeepsFree w.system.draw w.tree grown)
    (hfile : ∀ path, args.file = some path → ApartFrom i.home place w.tree grown path) :
    ∃ j loud, World.run (openLog i) w' = (.ok j, loud) ∧
      EndAlike (fun l => place ≠ some l ∧ grown.get? l = w.tree.get? l)
        (ended (World.run (execute j args config) loud))
        (ended (World.run (execute none args config) w)) := by
  obtain ⟨r, rfl⟩ := hreads
  obtain ⟨j, loud, quiet, hrun, hopened, hnone, hsome⟩ :=
    run_openLog_of_ok (w := { w with reading := r }) hlog haside h
  have hquiet : Opened grown w quiet := { hopened with }
  have hgrown := execute_opened config hlog haside hquiet (logged_grows h).1 hfree
    fun path hpath _ _ _ hfind => (hfile path hpath).find h hfind
  suffices hloud : EndAlike (place ≠ some ·) (ended (World.run (execute j args config) loud))
      (ended (World.run (execute none args config) quiet)) from ⟨j, loud, hrun, hloud.trans hgrown⟩
  cases place with
  | none =>
    obtain ⟨rfl, rfl⟩ := hnone rfl
    exact .refl _ _
  | some l =>
    have hbeside := execute_beside j (hsome l rfl) config fun path hpath opened => by
      rw [hopened.tree]
      exact (hfile path hpath).elsewhere l opened rfl
    exact (endAlike_of_beside hbeside).mono fun l' hl' heq => hl' (heq ▸ rfl)

/-! ### The program as a whole -/

theorem Reports.endAlike {f : Failure} {final final' : Nat × World} (h : Reports w f final)
    (h' : Reports w f final') (same : Location → Prop) : EndAlike same final final' :=
  ⟨h.status.trans h'.status.symm, h.output.trans h'.output.symm,
    fun l _ => by rw [h.tree, h'.tree]⟩

/-- With a log to keep, the program opens it once the configuration is read, and then executes the
directive. -/
theorem run_work_of_debug (hconfig : configured w i args = .ok config)
    (hdebug : (args.debug || config.debug) = true) : ∃ w', w.Reads w' ∧
      World.run (work i args) w =
        match World.run (openLog i) w' with
        | (.error f, w') => (.error f, w')
        | (.ok j, w') => ((World.run (execute j args config) w').1.mapError .edit,
            (World.run (execute j args config) w').2) := by
  obtain ⟨w', hreads, hrun⟩ := run_configure i args w
  refine ⟨w', hreads, ?_⟩
  rw [work, World.run_bind, hrun, hconfig]
  simp only [hdebug, ↓reduceIte]
  rw [World.run_bind]
  obtain ⟨answer, opened⟩ := World.run (openLog i) w'
  cases answer with
  | error f => rfl
  | ok j => exact World.run_bind _ _ _

theorem exitCode_of_logged {s : System} {home : Option Path} {t : Tree} {f : Failure}
    (h : logged s home t = .error f) : f.exitCode = 1 := by
  cases home with
  | none =>
    cases h
    rfl
  | some home =>
    rcases Result.bind_eq_error.mp h with h | ⟨made, -, h⟩
    · obtain ⟨cause, -, rfl⟩ := Result.mapError_eq_error.mp h
      rfl
    · split at h <;> cases h

/-- If the directory for the log cannot be made, that is told, and nothing else is done. -/
theorem reports_logged {f : Failure} (hargs : Arguments.read i.arguments = .ok args)
    (hconfig : configured w i args = .ok config) (hdebug : (args.debug || config.debug) = true)
    (h : logged w.system i.home w.tree = .error f) : Reports w f (World.run (plan i) w) := by
  obtain ⟨w', hreads, hwork⟩ := run_work_of_debug hconfig hdebug
  have hopen : World.run (openLog i) w' = (.error f, w') := by
    obtain ⟨r, rfl⟩ := hreads
    exact run_openLog_of_error h
  rw [hopen] at hwork
  exact reports_of_work hargs hwork (exitCode_of_logged h) hreads

/-- The switch for debugging adds nothing where the configuration asks for a log. -/
theorem run_work_debug (hconfig : configured w i args = .ok config)
    (hdebug : (args.debug || config.debug) = true) :
    World.run (work i { args with debug := true }) w = World.run (work i args) w := by
  obtain ⟨w', -, hrun⟩ := run_configure i args w
  have hrun' : World.run (configure i { args with debug := true }) w = _ := hrun
  rw [work, work, World.run_bind, World.run_bind, hrun, hrun', hconfig]
  simp only [hdebug, Bool.true_or]
  rfl

/-- The work with a log and without one end alike. -/
theorem run_work_logged {place : Option Location} {grown : Tree} (hlog : w.log = none)
    (haside : w.aside = none) (hconfig : configured w i args = .ok config)
    (h : logged w.system i.home w.tree = .ok (place, grown))
    (hfree : Aside.KeepsFree w.system.draw w.tree grown)
    (hfile : ∀ path, args.file = some path → ApartFrom i.home place w.tree grown path) :
    EndAlike (fun l => place ≠ some l ∧ grown.get? l = w.tree.get? l)
      ((World.run (work i { args with debug := true }) w).map status id)
      ((World.run (work i args) w).map status id) := by
  cases hdebug : args.debug || config.debug with
  | true =>
    rw [run_work_debug hconfig hdebug]
    exact .refl _ _
  | false =>
    have hconfig' : configured w i { args with debug := true } = .ok config := hconfig
    obtain ⟨w', ⟨r', rfl⟩, hloud⟩ := run_work_of_debug hconfig' (Bool.true_or _)
    obtain ⟨w'', ⟨r'', rfl⟩, hquiet⟩ := run_work_of_ok hconfig hdebug
    have hreads : World.Reads { w with reading := r'' } { w with reading := r' } := ⟨r', rfl⟩
    obtain ⟨j, loud, hopen, halike⟩ := execute_logged config hreads hlog haside h hfree hfile
    rw [hopen] at hloud
    rw [hloud, hquiet]
    exact halike

/-- The program ends as its work does. -/
theorem endAlike_of_work {i' : Invocation} {args' : Arguments} {same : Location → Prop}
    (hargs : Arguments.read i.arguments = .ok args)
    (hargs' : Arguments.read i'.arguments = .ok args')
    (h : EndAlike same ((World.run (work i args) w).map status id)
      ((World.run (work i' args') w).map status id)) :
    EndAlike same (World.run (plan i) w) (World.run (plan i') w) := by
  rw [run_plan_of_work hargs rfl, run_plan_of_work hargs' rfl]
  exact ⟨h.status, h.output, h.tree⟩

/-- Arguments that are refused alike end the program alike. -/
theorem endAlike_of_refused {i' : Invocation} {r r' : Refusal}
    (hargs : Arguments.read i.arguments = .error r)
    (hargs' : Arguments.read i'.arguments = .error r') (h : r.Alike r') :
    EndAlike (fun _ => True) (World.run (plan i') w) (World.run (plan i) w) := by
  unfold plan
  rw [hargs, hargs']
  cases r with
  | misuse text =>
    cases r' with
    | misuse text' => exact ⟨rfl, rfl, fun _ _ => rfl⟩
    | _ => cases h
  | _ =>
    cases h
    exact .refl _ _

/-- A home directory with nothing in it, and a file beside it. -/
def newHome : Tree :=
  ⟨[([bytesOf "home"], .directory), ([bytesOf "in"], .file (bytesOf "a\n") 0o644)]⟩

/-- A regular file stands where the directory for the log is to be. -/
def occupied : World :=
  { World.ofTree ⟨[([bytesOf "home"], .directory),
      ([bytesOf "home", bytesOf ".ccsed"], .file [] 0o644)]⟩ with
    input := Source.ofBytes (bytesOf "a\n") }

end Program
end StreamEditor
