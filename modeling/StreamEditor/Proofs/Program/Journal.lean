/-
# What a journal adds

A program that keeps a journal follows the plan of one that keeps none, with lines for the log in
between (`Plan.quiet`, `Program.quiet_edit`). Those lines go to a file at one place, and nothing else
is done to that file as long as the input of the edit does not lead there. So a run with the log
open keeps beside the run without (`World.Beside`): each answer is the same, and the files differ in
what the log holds. One step keeps the two runs beside each other (`World.Beside.of_calm`), and so
does all of an execution (`Program.execute_beside`).

Key definitions: `Plan.quiet`, `Plan.Calm`, `World.Beside`.
Key theorems: `World.Beside.of_calm`, `Program.execute_beside`.
-/
import StreamEditor.Proofs.Files.Shape
import StreamEditor.Proofs.Program.Quiet

namespace StreamEditor

namespace Plan

/-- A plan without its lines for the log. -/
def quiet {α : Type} : Plan α → Plan α
  | done a => done a
  | look p next => look p fun there => (next there).quiet
  | openFile p next => openFile p fun r => (next r).quiet
  | fileMode next => fileMode fun r => (next r).quiet
  | read most next => read most fun r => (next r).quiet
  | makeAside directory next => makeAside directory fun r => (next r).quiet
  | write data next => write data next.quiet
  | flush next => flush fun r => (next r).quiet
  | setMode mode next => setMode mode fun r => (next r).quiet
  | rename p next => rename p fun r => (next r).quiet
  | removeAside next => removeAside next.quiet
  | makeDirectories p next => makeDirectories p fun r => (next r).quiet
  | openLog p next => openLog p fun r => (next r).quiet
  | log _ next => next.quiet
  | input next => input fun s => (next s).quiet
  | output data next => output data next.quiet
  | complain text next => complain text next.quiet

/-- A plan that looks for nothing, opens nothing and makes no directory; if `reading` holds, it may
read the file that is open. -/
def Calm {α : Type} (reading : Prop) : Plan α → Prop
  | done _ => True
  | look _ _ => False
  | openFile _ _ => False
  | fileMode next => reading ∧ ∀ r, (next r).Calm reading
  | read _ next => reading ∧ ∀ r, (next r).Calm reading
  | makeAside _ next => ∀ r, (next r).Calm reading
  | write _ next => next.Calm reading
  | flush next => ∀ r, (next r).Calm reading
  | setMode _ next => ∀ r, (next r).Calm reading
  | rename _ next => ∀ r, (next r).Calm reading
  | removeAside next => next.Calm reading
  | makeDirectories _ _ => False
  | openLog _ _ => False
  | log _ next => next.Calm reading
  | input next => ∀ s, (next s).Calm reading
  | output _ next => next.Calm reading
  | complain _ next => next.Calm reading

variable {α β : Type} {reading : Prop}

theorem quiet_bind (p : Plan α) (f : α → Plan β) :
    (p >>= f).quiet = p.quiet >>= fun a => (f a).quiet := by
  change (p.bind f).quiet = p.quiet.bind fun a => (f a).quiet
  induction p with
  | done a => rfl
  | look p next ih => exact congrArg (look p) (funext ih)
  | openFile p next ih => exact congrArg (openFile p) (funext ih)
  | fileMode next ih => exact congrArg fileMode (funext ih)
  | read most next ih => exact congrArg (read most) (funext ih)
  | makeAside directory next ih => exact congrArg (makeAside directory) (funext ih)
  | write data next ih => exact congrArg (write data) ih
  | flush next ih => exact congrArg flush (funext ih)
  | setMode mode next ih => exact congrArg (setMode mode) (funext ih)
  | rename p next ih => exact congrArg (rename p) (funext ih)
  | removeAside next ih => exact congrArg removeAside ih
  | makeDirectories p next ih => exact congrArg (makeDirectories p) (funext ih)
  | openLog p next ih => exact congrArg (openLog p) (funext ih)
  | log line next ih => exact ih
  | input next ih => exact congrArg input (funext ih)
  | output data next ih => exact congrArg (output data) ih
  | complain text next ih => exact congrArg (complain text) ih

theorem Calm.bind {p : Plan α} {f : α → Plan β} (h : p.Calm reading)
    (hf : ∀ a, (f a).Calm reading) : (p >>= f).Calm reading := by
  change (p.bind f).Calm reading
  induction p with
  | done a => exact hf a
  | look p next ih => exact h.elim
  | openFile p next ih => exact h.elim
  | fileMode next ih => exact ⟨h.1, fun r => ih r (h.2 r)⟩
  | read most next ih => exact ⟨h.1, fun r => ih r (h.2 r)⟩
  | makeAside directory next ih => exact fun r => ih r (h r)
  | write data next ih => exact ih h
  | flush next ih => exact fun r => ih r (h r)
  | setMode mode next ih => exact fun r => ih r (h r)
  | rename p next ih => exact fun r => ih r (h r)
  | removeAside next ih => exact ih h
  | makeDirectories p next ih => exact h.elim
  | openLog p next ih => exact h.elim
  | log line next ih => exact ih h
  | input next ih => exact fun s => ih s (h s)
  | output data next ih => exact ih h
  | complain text next ih => exact ih h

theorem quiet_logAll : ∀ lines : List String, (logAll lines).quiet = done ()
  | [] => rfl
  | _ :: lines => quiet_logAll lines

theorem calm_logAll (reading : Prop) : ∀ lines : List String, (logAll lines).Calm reading
  | [] => trivial
  | _ :: lines => calm_logAll reading lines

end Plan

/-! ### Two runs beside each other -/

namespace World

/-- A world with the log open, and one without: they differ in what stands at the place of the log,
which is neither the file open for reading nor the one made aside, and in what was complained
about. -/
structure Beside (l : Location) (loud quiet : World) : Prop where
  tree : Tree.AlikeOff l loud.tree quiet.tree
  log : loud.log = none ∨ loud.log = some l
  unlogged : quiet.log = none
  input : loud.input = quiet.input
  output : loud.output = quiet.output
  reading : loud.reading = quiet.reading
  aside : loud.aside = quiet.aside
  apart : quiet.aside ≠ some (.within l)
  system : loud.system = quiet.system

/-- What is open for reading is not the log. -/
def ReadsApart (l : Location) (w : World) : Prop := ∀ r, w.reading = some r → r.spot ≠ .below l

theorem ReadsApart.of_eq {l : Location} {w w' : World} (h : w.ReadsApart l)
    (hreading : w'.reading = w.reading) : w'.ReadsApart l := by
  unfold ReadsApart
  rw [hreading]
  exact h

/-- Two runs that end beside each other, with the same value. -/
structure EndBeside {α : Type} (l : Location) (loud quiet : α × World) : Prop where
  value : loud.1 = quiet.1
  beside : Beside l loud.2 quiet.2

namespace Beside

variable {l : Location} {loud quiet : World}

/-- A line for the log changes nothing but the log. -/
theorem note (h : Beside l loud quiet) (line : String) : Beside l (loud.note line) quiet := by
  rcases h.log with hlog | hlog
  · rwa [note_of_log_none hlog]
  · rw [World.note, hlog]
    exact { h with tree := h.tree.append_here _, log := .inr rfl }

theorem opened (h : Beside l loud quiet) (hreads : quiet.ReadsApart l) :
    loud.opened = quiet.opened := by
  unfold World.opened
  rw [h.reading]
  cases hr : quiet.reading with
  | none => rfl
  | some r => simp only [Option.bind_some, h.tree.at? (hreads r hr)]

theorem fileMode (h : Beside l loud quiet) (hreads : quiet.ReadsApart l) :
    loud.fileMode = quiet.fileMode := by
  unfold World.fileMode
  rw [h.opened hreads, h.system]

theorem read (h : Beside l loud quiet) (hreads : quiet.ReadsApart l) (most : Option Nat) :
    (loud.read most).1 = (quiet.read most).1 ∧
      Beside l (loud.read most).2 (quiet.read most).2 ∧ (quiet.read most).2.ReadsApart l := by
  unfold World.read
  rw [h.opened hreads, h.reading]
  split
  · next r data hr _ =>
    refine ⟨rfl, { h with reading := rfl }, ?_⟩
    rintro r' ⟨⟩
    exact hreads r hr
  · exact ⟨rfl, h, hreads⟩

/-- Two answers: both are the same error, or both are worlds, one beside the other. -/
def Answers (l : Location) (w : World) : Except SystemError World → Except SystemError World → Prop
  | .ok loud, .ok quiet => Beside l loud quiet ∧ quiet.reading = w.reading
  | .error e, .error e' => e = e'
  | _, _ => False

theorem Answers.settle {answer answer' : Except SystemError World} (h : Beside l loud quiet)
    (ha : Answers l quiet answer answer') :
    (loud.settle answer).1 = (quiet.settle answer').1 ∧
      Beside l (loud.settle answer).2 (quiet.settle answer').2 ∧
        (quiet.settle answer').2.reading = quiet.reading := by
  cases answer with
  | error e =>
    cases answer' with
    | error e' =>
      obtain rfl : e = e' := ha
      exact ⟨rfl, h, rfl⟩
    | ok quiet' => exact ha.elim
  | ok loud' =>
    cases answer' with
    | error e' => exact ha.elim
    | ok quiet' => exact ⟨rfl, ha.1, ha.2⟩

theorem Answers.of_tree {α : Type} {x x' : Except SystemError (α × Tree)} {f f' : α × Tree → World}
    {w : World} (h : Tree.AlikeOff.Answers l x x') (hf : ∀ {a : α} {t t' : Tree}, x' = .ok (a, t') →
      Tree.AlikeOff l t t' → Beside l (f (a, t)) (f' (a, t')) ∧ (f' (a, t')).reading = w.reading) :
    Answers l w (x.bind fun made => .ok (f made)) (x'.bind fun made => .ok (f' made)) := by
  cases x with
  | error e =>
    cases x' with
    | error e' => exact h
    | ok made' => exact h.elim
  | ok made =>
    cases x' with
    | error e' => exact h.elim
    | ok made' =>
      obtain ⟨a, t⟩ := made
      obtain ⟨a', t'⟩ := made'
      obtain ⟨rfl, htree⟩ := h
      exact hf rfl htree

theorem makeAside (h : Beside l loud quiet) (directory : Path) :
    Answers l quiet (loud.makeAside directory) (quiet.makeAside directory) := by
  unfold World.makeAside
  rw [h.system]
  cases quiet.system.permit .create with
  | error cause => rfl
  | ok _ =>
    refine .of_tree (h.tree.make quiet.system.draw directory) fun hmade htree => ⟨?_, rfl⟩
    exact { h with
      tree := htree
      aside := rfl
      apart := fun hs => h.tree.make_ne hmade (Option.some.inj hs)
      system := rfl }

theorem write (h : Beside l loud quiet) (data : Bytes) :
    Beside l (loud.write data) (quiet.write data) ∧ (quiet.write data).reading = quiet.reading := by
  unfold World.write
  rw [h.aside]
  cases haside : quiet.aside with
  | none => exact ⟨h, rfl⟩
  | some a =>
    have ha : a ≠ .within l := fun ha => h.apart (ha ▸ haside)
    obtain ⟨hsame, hne, htree⟩ := h.tree.asideAppend ha data
    exact ⟨{ h with
      tree := htree
      aside := congrArg some hsame
      apart := fun hs => hne (Option.some.inj hs) }, rfl⟩

theorem setMode (h : Beside l loud quiet) (mode : Nat) :
    Answers l quiet (loud.setMode mode) (quiet.setMode mode) := by
  unfold World.setMode
  rw [h.system, h.aside]
  cases quiet.system.permit .permissions with
  | error cause => rfl
  | ok _ =>
    simp only [bind, Except.bind]
    cases haside : quiet.aside with
    | none => rfl
    | some a =>
      have ha : a ≠ .within l := fun ha => h.apart (ha ▸ haside)
      obtain ⟨hsame, hne, htree⟩ := h.tree.asideSetMode ha mode
      exact ⟨{ h with
        tree := htree
        aside := congrArg some hsame
        apart := fun hs => hne (Option.some.inj hs)
        system := rfl }, rfl⟩

theorem rename (h : Beside l loud quiet) (p : Path) :
    Answers l quiet (loud.rename p) (quiet.rename p) := by
  unfold World.rename
  rw [h.system, h.aside]
  cases quiet.system.permit .rename with
  | error cause => rfl
  | ok _ =>
    cases haside : quiet.aside with
    | none => rfl
    | some a =>
      refine .of_tree (h.tree.move (fun ha => h.apart (ha ▸ haside)) p) fun _ htree => ⟨?_, rfl⟩
      refine { h with
        tree := htree, log := ?_, unlogged := ?_, aside := rfl, apart := nofun, system := rfl }
      · simp only
        split
        · exact .inl rfl
        · exact h.log
      · simp only
        split
        · rfl
        · exact h.unlogged

theorem removeAside (h : Beside l loud quiet) :
    Beside l loud.removeAside quiet.removeAside ∧
      quiet.removeAside.reading = quiet.reading := by
  unfold World.removeAside
  rw [h.aside]
  cases haside : quiet.aside with
  | none => exact ⟨h, rfl⟩
  | some a =>
    have ha : a ≠ .within l := fun ha => h.apart (ha ▸ haside)
    exact ⟨{ h with tree := h.tree.asideRemove ha, aside := rfl, apart := nofun }, rfl⟩

/-- **A calm plan keeps two runs beside each other**, the one with its lines for the log and the
other without them, and both give the same value. -/
theorem of_calm {α : Type} {reading : Prop} (p : Plan α) : ∀ {loud quiet : World},
    p.Calm reading → Beside l loud quiet → (reading → quiet.ReadsApart l) →
      EndBeside l (World.run p loud) (World.run p.quiet quiet) := by
  induction p with
  | done a => exact fun _ h _ => ⟨rfl, h⟩
  | look p next ih => exact fun hp _ _ => hp.elim
  | openFile p next ih => exact fun hp _ _ => hp.elim
  | fileMode next ih =>
    intro loud quiet hp h hreads
    have hmode := h.fileMode (hreads hp.1)
    rw [World.run, hmode]
    exact ih _ (hp.2 _) h hreads
  | read most next ih =>
    intro loud quiet hp h hreads
    obtain ⟨hanswer, hbeside, hreads'⟩ := h.read (hreads hp.1) most
    change EndBeside l (World.run (next (loud.read most).1) (loud.read most).2) _
    rw [hanswer]
    exact ih _ (hp.2 _) hbeside fun _ => hreads'
  | makeAside directory next ih =>
    intro loud quiet hp h hreads
    obtain ⟨hanswer, hbeside, hreading⟩ := (h.makeAside directory).settle h
    change EndBeside l (World.run (next (loud.settle _).1) (loud.settle _).2) _
    rw [hanswer]
    exact ih _ (hp _) hbeside fun hr => (hreads hr).of_eq hreading
  | write data next ih =>
    intro loud quiet hp h hreads
    obtain ⟨hbeside, hreading⟩ := h.write data
    exact ih hp hbeside fun hr => (hreads hr).of_eq hreading
  | flush next ih =>
    intro loud quiet hp h hreads
    rw [World.run, h.system]
    exact ih _ (hp _) h hreads
  | setMode mode next ih =>
    intro loud quiet hp h hreads
    obtain ⟨hanswer, hbeside, hreading⟩ := (h.setMode mode).settle h
    change EndBeside l (World.run (next (loud.settle _).1) (loud.settle _).2) _
    rw [hanswer]
    exact ih _ (hp _) hbeside fun hr => (hreads hr).of_eq hreading
  | rename p next ih =>
    intro loud quiet hp h hreads
    obtain ⟨hanswer, hbeside, hreading⟩ := (h.rename p).settle h
    change EndBeside l (World.run (next (loud.settle _).1) (loud.settle _).2) _
    rw [hanswer]
    exact ih _ (hp _) hbeside fun hr => (hreads hr).of_eq hreading
  | removeAside next ih =>
    intro loud quiet hp h hreads
    obtain ⟨hbeside, hreading⟩ := h.removeAside
    exact ih hp hbeside fun hr => (hreads hr).of_eq hreading
  | makeDirectories p next ih => exact fun hp _ _ => hp.elim
  | openLog p next ih => exact fun hp _ _ => hp.elim
  | log line next ih => exact fun hp h hreads => ih hp (h.note line) hreads
  | input next ih =>
    intro loud quiet hp h hreads
    rw [World.run, h.input]
    exact ih _ (hp _) { h with input := rfl } hreads
  | output data next ih =>
    intro loud quiet hp h hreads
    exact ih hp { h with output := congrArg (· ++ data) h.output } hreads
  | complain text next ih => exact fun hp h hreads => ih hp { h with } hreads

/-- Opening a file that is not the log keeps two runs beside each other, if what follows is calm. -/
theorem of_openFile {α : Type} (h : Beside l loud quiet) {path : Path}
    {next : Except SystemError Unit → Plan α} (herror : ∀ cause, (next (.error cause)).Calm False)
    (hok : (next (.ok ())).Calm True)
    (hpath : ∀ opened, quiet.tree.find path ≠ .ok (.below l, opened)) :
    EndBeside l (World.run (.openFile path next) loud)
      (World.run (.openFile path fun r => (next r).quiet) quiet) := by
  rw [World.run, World.run, World.openFile, World.openFile, h.system, System.find,
    h.tree.find hpath, ← System.find]
  cases hfind : quiet.system.find quiet.tree path with
  | error cause => exact of_calm _ (herror cause) h False.elim
  | ok found =>
    obtain ⟨spot, opened⟩ := found
    refine of_calm _ hok { h with reading := rfl, system := rfl } fun _ => ?_
    rintro r ⟨⟩ rfl
    exact hpath opened (System.find_eq_ok.mp hfind).2

end Beside

/-- Plans that keep two runs beside each other do so one after the other. -/
theorem EndBeside.bind {α β : Type} {l : Location} {loud quiet : World} {p q : Plan α}
    {f g : α → Plan β}
    (h : EndBeside l (World.run p loud) (World.run q quiet))
    (hf : ∀ a, Beside l (World.run p loud).2 (World.run q quiet).2 →
      EndBeside l (World.run (f a) (World.run p loud).2) (World.run (g a) (World.run q quiet).2)) :
    EndBeside l (World.run (p >>= f) loud) (World.run (q >>= g) quiet) := by
  rw [World.run_bind, World.run_bind, h.value]
  exact hf _ h.beside

end World

/-! ### The plans of the program -/

namespace Edit

variable {α : Type}

theorem quiet_logAll (lines : List String) (next : Edit α) :
    (logAll lines next).toPlan.quiet = next.toPlan.quiet := by
  induction lines with
  | nil => rfl
  | cons line lines ih => exact ih

theorem calm_toPlan (edit : Edit α) : edit.toPlan.Calm True := by
  induction edit with
  | done result => trivial
  | read most next ih => exact ⟨trivial, ih⟩
  | write data next ih => exact ih
  | log line next ih => exact ih

end Edit

/-- The edit of a processor writes its lines for the log in between. -/
theorem Processor.quiet_toEdit (p : Processor) (before : List String)
    (after : Processor.Outcome → List String) :
    (p.toEdit before after).toPlan.quiet = p.toEdit.toPlan := by
  rw [toEdit, Edit.quiet_logAll]
  exact congrArg (Plan.read none) (funext fun content => Edit.quiet_logAll _ _)

namespace Rewrite

variable {α : Type} {edit edit' : Edit α}

theorem quiet_plan (p : Path) (h : edit.toPlan.quiet = edit'.toPlan) :
    (plan p edit).quiet = plan p edit' := by
  have hpublish : ∀ mode (value : α), (publish p mode value).quiet = publish p mode value := by
    intro mode value
    refine congrArg Plan.flush (funext fun r => ?_)
    cases r with
    | error cause => rfl
    | ok _ =>
      refine congrArg (Plan.setMode mode) (funext fun r => ?_)
      cases r with
      | error cause => rfl
      | ok _ =>
        refine congrArg (Plan.rename p) (funext fun r => ?_)
        cases r <;> rfl
  have hedited : ∀ mode, (edited p mode edit).quiet = edited p mode edit' := by
    intro mode
    rw [edited, Plan.quiet_bind, h]
    refine congrArg (edit'.toPlan >>= ·) (funext fun r => ?_)
    cases r with
    | error e => rfl
    | ok value => exact hpublish mode value
  refine congrArg (Plan.openFile p) (funext fun r => ?_)
  cases r with
  | error cause => rfl
  | ok _ =>
    refine congrArg Plan.fileMode (funext fun r => ?_)
    cases r with
    | error cause => rfl
    | ok mode =>
      refine congrArg (Plan.makeAside (directory p)) (funext fun r => ?_)
      cases r with
      | error cause => rfl
      | ok _ =>
        change (guarded (edited p mode edit)).quiet = guarded (edited p mode edit')
        rw [guarded, Plan.quiet_bind, hedited]
        refine congrArg (edited p mode edit' >>= ·) (funext fun r => ?_)
        cases r <;> rfl

theorem calm_guarded (p : Path) (mode : Nat) (edit : Edit α) :
    (guarded (edited p mode edit)).Calm True := by
  have hpublish : ∀ value : α, (publish p mode value).Calm True := by
    intro value r
    cases r with
    | error cause => trivial
    | ok _ =>
      intro r
      cases r with
      | error cause => trivial
      | ok _ =>
        intro r
        cases r <;> trivial
  refine .bind (.bind edit.calm_toPlan fun r => ?_) fun r => ?_
  · cases r with
    | error e => trivial
    | ok value => exact hpublish value
  · cases r <;> trivial

end Rewrite

namespace Program

variable (j : Journal)

theorem calm_note (reading : Prop) (events : List Log.Event) : (note j events).Calm reading :=
  Plan.calm_logAll reading _

theorem quiet_note (events : List Log.Event) : (note j events).quiet = .done () :=
  Plan.quiet_logAll _

theorem quiet_note_bind {β : Type} (events : List Log.Event) (f : Unit → Plan β) :
    (note j events >>= f).quiet = (f ()).quiet := by
  rw [Plan.quiet_bind, quiet_note]
  rfl

theorem quiet_rewrite (p : Processor) (path : Path) :
    (rewrite j p path).quiet = rewrite none p path := by
  have hplan := Rewrite.quiet_plan path
    (p.quiet_toEdit (j.lines [Log.started p]) fun o => j.lines (Log.ofRun o))
  unfold rewrite
  rw [Plan.quiet_bind, hplan]
  exact congrArg (Rewrite.plan path p.toEdit >>= ·) (funext fun _ => quiet_note_bind j _ _)

/-- What follows once a copied input is taken: lines for the log, and what the run writes. -/
theorem quiet_copied (p : Processor) (source : Source) :
    (note j (Log.ofRun (p.run source .unlimited)) >>= fun _ =>
      .output (p.run source .unlimited).out (.done (p.run source .unlimited).result)).quiet =
      .output (p.run source .unlimited).out (.done (p.run source .unlimited).result) :=
  quiet_note_bind j _ _

theorem calm_copied (reading : Prop) (p : Processor) (source : Source) :
    (note j (Log.ofRun (p.run source .unlimited)) >>= fun _ =>
      .output (p.run source .unlimited).out
        (.done (p.run source .unlimited).result)).Calm reading :=
  .bind (calm_note j reading _) fun _ => trivial

/-- **What a journal adds to an edit** is lines for the log. -/
theorem quiet_edit (args : Arguments) (p : Processor) : (edit j args p).quiet = edit none args p := by
  unfold edit
  split
  · exact quiet_rewrite j p _
  · next path _ _ =>
    refine congrArg (Plan.openFile path) (funext fun r => ?_)
    cases r with
    | error cause => rfl
    | ok _ =>
      refine (quiet_note_bind j _ _).trans ?_
      exact congrArg (Plan.read none) (funext fun content => quiet_copied j p _)
  · refine (quiet_note_bind j _ _).trans ?_
    exact congrArg Plan.input (funext fun source => quiet_copied j p source)

variable {l : Location} {loud quiet : World} {args : Arguments}

/-- Logging events keeps two runs beside each other. -/
theorem note_beside (h : World.Beside l loud quiet) (events : List Log.Event) :
    World.EndBeside l (World.run (note j events) loud) (World.run (note none events) quiet) := by
  have hcalm := World.Beside.of_calm (note j events) (calm_note j False events) h False.elim
  rwa [quiet_note] at hcalm

theorem rewrite_beside (h : World.Beside l loud quiet) (p : Processor) {path : Path}
    (hpath : ∀ opened, quiet.tree.find path ≠ .ok (.below l, opened)) :
    World.EndBeside l (World.run (rewrite j p path) loud)
      (World.run (rewrite none p path) quiet) := by
  refine World.EndBeside.bind ?_ fun result h => (note_beside j h _).bind fun _ h => ⟨rfl, h⟩
  have hplan := Rewrite.quiet_plan path
    (p.quiet_toEdit (j.lines [Log.started p]) fun o => j.lines (Log.ofRun o))
  change World.EndBeside l _ (World.run (Rewrite.plan path p.toEdit) quiet)
  rw [← hplan]
  refine h.of_openFile (fun _ => trivial) ⟨trivial, fun mode => ?_⟩ hpath
  cases mode with
  | error cause => trivial
  | ok mode =>
    intro r
    cases r with
    | error cause => trivial
    | ok _ => exact Rewrite.calm_guarded path mode _

/-- An edit of what is not the log keeps two runs beside each other, -/
theorem edit_beside (h : World.Beside l loud quiet) (p : Processor)
    (hfile : ∀ path, args.file = some path →
      ∀ opened, quiet.tree.find path ≠ .ok (.below l, opened)) :
    World.EndBeside l (World.run (edit j args p) loud) (World.run (edit none args p) quiet) := by
  cases hargs : args.file with
  | none =>
    rw [← quiet_edit j]
    unfold edit
    rw [hargs]
    have hcalm : (copy j p .input).Calm False :=
      .bind (calm_note j False _) fun _ source => calm_copied j False p source
    exact World.Beside.of_calm _ hcalm h False.elim
  | some path =>
    cases hplace : args.inPlace with
    | true =>
      unfold edit
      rw [hargs, hplace]
      exact rewrite_beside j h p (hfile path hargs)
    | false =>
      rw [← quiet_edit j]
      unfold edit
      rw [hargs, hplace]
      refine h.of_openFile (fun cause => trivial) ?_ (hfile path hargs)
      exact .bind (calm_note j True _) fun _ => ⟨trivial, fun content => calm_copied j True p _⟩

/-- and so does the execution of a directive. -/
theorem execute_beside (h : World.Beside l loud quiet) (config : Config)
    (hfile : ∀ path, args.file = some path →
      ∀ opened, quiet.tree.find path ≠ .ok (.below l, opened)) :
    World.EndBeside l (World.run (execute j args config) loud)
      (World.run (execute none args config) quiet) := by
  unfold execute
  refine World.EndBeside.bind (note_beside j h _) fun _ hnoted => ?_
  cases Directive.parse args.selecting (args.semantics.getD config.semantics) args.directive with
  | error e => exact ⟨rfl, hnoted⟩
  | ok s =>
    refine World.EndBeside.bind (note_beside j hnoted _) fun _ hexecuting => ?_
    refine World.EndBeside.bind (edit_beside j hexecuting _ hfile) fun result hedited => ?_
    exact World.EndBeside.bind (note_beside j hedited _) fun _ h => ⟨rfl, h⟩

end Program
end StreamEditor
