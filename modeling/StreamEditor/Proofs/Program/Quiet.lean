/-
# The program without a log

Without a log the parts of the program come to what they come to on the files alone: the
configuration is that of a file (`Program.configured`), an input that is copied is run over
(`run_edit_input`, `run_edit_file`), and a file that is edited in place is rewritten
(`run_edit_inPlace`). The world around changes by what is written, and by the file that is open for
reading.

Key definitions: `Config.ofFile`, `Program.configured`, `Program.meant`, `World.Reads`.
Key theorems: `Program.run_work_of_ok`, `Program.run_plan_of_work`.
-/
import StreamEditor.Program
import StreamEditor.Proofs.Rewrite.Atomic

namespace StreamEditor

/-- The configuration of the file that a path leads to: the default if there is none, and otherwise
what it holds, if it opens. -/
def Config.ofFile (s : System) (t : Tree) (p : Path) : Except ConfigError Config :=
  if s.isThere t p then
    match s.openFile t p with
    | .error cause => .error (.unreadable p cause)
    | .ok file => ofContent p file.content
  else .ok .default

/-! ### Opening and reading -/

namespace World

/-- Two worlds that differ at most in what is open for reading. -/
def Reads (w w' : World) : Prop := ∃ r, w' = { w with reading := r }

theorem Reads.refl (w : World) : Reads w w := ⟨w.reading, rfl⟩

variable {w : World} {p : Path}

theorem openFile_of_error {cause : SystemError}
    (h : w.system.openFile w.tree p = .error cause) : w.openFile p = .error cause := by
  rw [System.openFile, Result.map_eq_error] at h
  rw [World.openFile, h]
  rfl

/-- A file that was opened can be read as a whole. -/
theorem openFile_of_ok {file : Tree.Opened} (h : w.system.openFile w.tree p = .ok file) : ∃ w',
    w.openFile p = .ok w' ∧ Reads w w' ∧ (w'.read none).1 = file.content ∧
      Reads w (w'.read none).2 := by
  obtain ⟨⟨spot, file⟩, hfind, rfl⟩ := Result.map_eq_ok.mp h
  have hat := (Tree.find_iff.mp (System.find_eq_ok.mp hfind).2).2
  have hopened : World.opened { w with reading := some ⟨spot, 0⟩ } = .ok file :=
    opened_of_reading rfl hat
  refine ⟨{ w with reading := some ⟨spot, 0⟩ }, ?_, ⟨_, rfl⟩, ?_⟩
  · rw [World.openFile, hfind]
    rfl
  · rw [World.read, hopened]
    simp only [Option.map_some, Option.getD_some, Except.bind, file.read_all]
    cases file.content with
    | error e => exact ⟨rfl, _, rfl⟩
    | ok data => exact ⟨rfl, _, rfl⟩

end World

/-! ### The configuration -/

theorem Config.run_load (p : Path) (w : World) : ∃ w', w.Reads w' ∧
    World.run (load p) w = (ofFile w.system w.tree p, w') := by
  unfold load ofFile
  rw [World.run]
  cases w.system.isThere w.tree p with
  | false => exact ⟨w, .refl w, rfl⟩
  | true =>
    simp only [World.run, ↓reduceIte]
    cases hopen : w.system.openFile w.tree p with
    | error cause =>
      rw [World.openFile_of_error hopen]
      exact ⟨w, .refl w, rfl⟩
    | ok file =>
      obtain ⟨w', hw, -, hcontent, hreads⟩ := World.openFile_of_ok hopen
      rw [hw]
      exact ⟨_, hreads, congrArg (fun content => (ofContent p content, (w'.read none).2)) hcontent⟩

namespace Program

/-- The configuration that the program runs with. -/
def configured (w : World) (i : Invocation) (args : Arguments) : Except ConfigError Config :=
  match args.config, i.home with
  | some path, _ => Config.ofFile w.system w.tree path
  | none, some home => Config.ofFile w.system w.tree (Home.config home)
  | none, none => .ok .default

theorem run_configure (i : Invocation) (args : Arguments) (w : World) : ∃ w', w.Reads w' ∧
    World.run (configure i args) w = (configured w i args, w') := by
  unfold configure configured
  cases args.config with
  | some path => exact Config.run_load path w
  | none =>
    cases i.home with
    | some home => exact Config.run_load _ w
    | none => exact ⟨w, .refl w, rfl⟩

/-! ### The edit -/

section
variable {args : Arguments} {p : Processor} {w : World} {path : Path}

/-- The standard input is taken, and what a run over it writes goes to the standard output. -/
theorem run_edit_input (hfile : args.file = none) :
    World.run (edit none args p) w = ((p.run w.input .unlimited).result,
      { w with input := [], output := w.output ++ (p.run w.input .unlimited).out }) := by
  rw [edit, hfile]
  rfl

/-- What a run over a file writes goes to the standard output. -/
theorem run_edit_file {file : Tree.Opened} (hfile : args.file = some path)
    (hplace : args.inPlace = false) (hopen : w.system.openFile w.tree path = .ok file) : ∃ r,
      World.run (edit none args p) w =
        ((p.run (.ofContent file.content) .unlimited).result,
          { w with
            reading := r
            output := w.output ++ (p.run (.ofContent file.content) .unlimited).out }) := by
  obtain ⟨w', hw, -, hcontent, r, hreads⟩ := World.openFile_of_ok hopen
  refine ⟨r, ?_⟩
  rw [edit, hfile, hplace]
  simp only [copyFile]
  rw [World.run, hw]
  change World.run (.read none fun content => .output (p.run (.ofContent content) .unlimited).out
    (.done (p.run (.ofContent content) .unlimited).result)) w' = _
  rw [World.run]
  simp only [hcontent, hreads, World.run]

theorem run_rewrite (p : Processor) (path : Path) (w : World) :
    World.run (rewrite none p path) w = World.run (Rewrite.plan path p.toEdit) w := by
  change World.run (Rewrite.plan path p.toEdit >>= _) w = _
  rw [World.run_bind]
  rfl

/-- Nothing is done if the file does not open. -/
theorem run_edit_unopened {cause : SystemError} (hfile : args.file = some path)
    (hopen : w.system.openFile w.tree path = .error cause) :
    World.run (edit none args p) w = (.error (.fileOpen path cause), w) := by
  rw [edit, hfile]
  cases args.inPlace with
  | false =>
    simp only [copyFile]
    rw [World.run, World.openFile_of_error hopen]
    rfl
  | true =>
    simp only [run_rewrite]
    rw [Rewrite.plan, World.run, World.openFile_of_error hopen]
    rfl

/-- A file that is edited in place is rewritten. -/
theorem run_edit_inPlace (hfile : args.file = some path) (hplace : args.inPlace = true)
    (hlog : w.log = none) (haside : w.aside = none) : ∃ w',
      World.run (edit none args p) w =
        ((Rewrite.outcome w.system w.tree path p.toEdit).map (·.1), w') ∧ w.Around w' ∧
      w'.tree = Rewrite.after w.tree (Rewrite.outcome w.system w.tree path p.toEdit) := by
  obtain ⟨w', hrun, haround, htree, -⟩ := Rewrite.run_plan hlog haside path p.toEdit
  refine ⟨w', ?_, haround, htree⟩
  rw [edit, hfile, hplace]
  simp only [run_rewrite]
  exact hrun

end

/-! ### The program as a whole -/

/-- What a directive means under the arguments and a configuration. -/
def meant (args : Arguments) (config : Config) : Except EditError Substitution :=
  Directive.parse args.selecting (args.semantics.getD config.semantics) args.directive

theorem run_execute_of_error {args : Arguments} {config : Config} {e : EditError}
    (h : meant args config = .error e) (w : World) :
    World.run (execute none args config) w = (.error e, w) := by
  unfold meant at h
  unfold execute
  rw [h]
  rfl

theorem run_execute_of_ok {args : Arguments} {config : Config} {s : Substitution}
    (h : meant args config = .ok s) (w : World) :
    World.run (execute none args config) w =
      World.run (edit none args (.ofSubstitution s args.selecting)) w := by
  unfold meant at h
  unfold execute
  rw [h]
  change World.run (edit none args (.ofSubstitution s args.selecting) >>= _) w = _
  rw [World.run_bind]
  rfl

/-- The configuration is read first, -/
theorem run_work_of_error {i : Invocation} {args : Arguments} {w : World} {e : ConfigError}
    (h : configured w i args = .error e) : ∃ w', w.Reads w' ∧
      World.run (work i args) w = (.error (.config e), w') := by
  obtain ⟨w', hreads, hrun⟩ := run_configure i args w
  refine ⟨w', hreads, ?_⟩
  rw [work, World.run_bind, hrun, h]
  rfl

/-- and without a log, the directive is executed next. -/
theorem run_work_of_ok {i : Invocation} {args : Arguments} {w : World} {config : Config}
    (h : configured w i args = .ok config) (hdebug : (args.debug || config.debug) = false) :
    ∃ w', w.Reads w' ∧ World.run (work i args) w =
      ((World.run (execute none args config) w').1.mapError .edit,
        (World.run (execute none args config) w').2) := by
  obtain ⟨w', hreads, hrun⟩ := run_configure i args w
  refine ⟨w', hreads, ?_⟩
  rw [work, World.run_bind, hrun, h]
  simp only
  rw [hdebug]
  change World.run (execute none args config >>= fun result =>
    return result.mapError Failure.edit) w' = _
  rw [World.run_bind]
  rfl

/-- The status with which the program ends. -/
def status : Except Failure Stats → Nat
  | .ok _ => 0
  | .error f => f.exitCode

/-- What the program complains about. -/
def complaint : Except Failure Stats → Bytes
  | .ok _ => []
  | .error f => bytesOf ("error: " ++ f.message ++ "\n")

/-- **The program ends as its work does**, with a complaint if that failed. -/
theorem run_plan_of_work {i : Invocation} {args : Arguments} {w w' : World}
    {result : Except Failure Stats} (hargs : Arguments.read i.arguments = .ok args)
    (hwork : World.run (work i args) w = (result, w')) : World.run (plan i) w =
      (status result, { w' with complaints := w'.complaints ++ complaint result }) := by
  rw [plan, hargs]
  change World.run (work i args >>= fun result => match result with
    | .ok _ => return 0
    | .error f => abort f.message f.exitCode) w = _
  rw [World.run_bind, hwork]
  cases result with
  | error f => rfl
  | ok stats =>
    rw [complaint, List.append_nil]
    rfl

end Program
end StreamEditor
