/-
# Three ways through the program

The program takes its input from the standard input, or from a file, or it edits a file in place.
Whichever way some content comes, a task comes to the same on it (`Task.verdict`): the same failure,
or the same counts and the same bytes, which go to the standard output or into the file.

Key definitions: `Task`, `Task.verdict`, `Program.Called`.
Key theorem: `Program.routes_agree`.
-/
import StreamEditor.Proofs.Processor.ReadFailure
import StreamEditor.Proofs.Program.Quiet

namespace StreamEditor

namespace Processor

variable {source : Source} {content : Bytes}

/-- A run over a source that delivers some bytes is the run over those bytes. -/
theorem run_of_delivers (p : Processor) (h : source.Delivers content) (sink : Sink) :
    p.run source sink = p.run (.ofBytes content) sink := by
  obtain ⟨hlines, hending⟩ := Source.lines_of_delivers h
  obtain ⟨hlines', hending'⟩ := Source.lines_of_delivers (Source.ofBytes_delivers content)
  rw [run, run, hlines, hlines', hending, hending']

/-- Such a run succeeds if all can be written. -/
theorem result_ofBytes (p : Processor) (content : Bytes) :
    (p.run (.ofBytes content) .unlimited).result =
      .ok (p.run (.ofBytes content) .unlimited).progress.stats := by
  obtain ⟨-, hending⟩ := Source.lines_of_delivers (Source.ofBytes_delivers content)
  obtain ⟨-, -, -, herror⟩ := p.run_of_fits (.ofBytes content) Sink.unlimited_fair
    (Sink.unlimited_unfailing.fitting _)
  rw [Outcome.result, herror, hending]
  rfl

end Processor

/-- What the program is called for, whichever way its input comes: a directive, whether ranges are
allowed, the semantics of flags if it is told, and the configuration. -/
structure Task where
  directive : String
  selecting : Bool
  semantics : Option FlagSemantics
  config : Except ConfigError Config

namespace Task

/-- The processor of a task. -/
def processor (task : Task) : Except Program.Failure Processor := do
  let config ← task.config.mapError .config
  let semantics := task.semantics.getD config.semantics
  let s ← (Directive.parse task.selecting semantics task.directive).mapError .edit
  return .ofSubstitution s task.selecting

/-- What a task comes to on some content: what is counted and what is written, or the failure. -/
def verdict (task : Task) (content : Bytes) : Except Program.Failure (Stats × Bytes) :=
  task.processor.map fun p =>
    ((p.run (.ofBytes content) .unlimited).progress.stats,
      (p.run (.ofBytes content) .unlimited).out)

end Task

namespace Program

/-- The program is called for a task, with debug logging off. -/
structure Called (task : Task) (args : Arguments) (i : Invocation) (w : World) : Prop where
  accepted : Arguments.read i.arguments = .ok args
  directive : args.directive = task.directive
  selecting : args.selecting = task.selecting
  semantics : args.semantics = task.semantics
  debug : args.debug = false
  config : configured w i args = task.config
  quiet : ∀ config, task.config = .ok config → config.debug = false
  log : w.log = none
  aside : w.aside = none

variable {task : Task} {args : Arguments} {i : Invocation} {w : World} {content : Bytes}

/-- The work for a task is to edit with its processor, if there is one. -/
theorem Called.run_work (h : Called task args i w) : ∃ w', w.Reads w' ∧
    World.run (work i args) w =
      match task.processor with
      | .error f => (.error f, w')
      | .ok p => ((World.run (edit none args p) w').1.mapError .edit,
          (World.run (edit none args p) w').2) := by
  have hconfigured := h.config
  cases hconfig : task.config with
  | error e =>
    rw [hconfig] at hconfigured
    have hprocessor : task.processor = .error (.config e) := by
      rw [Task.processor, hconfig]
      rfl
    rw [hprocessor]
    exact run_work_of_error hconfigured
  | ok config =>
    rw [hconfig] at hconfigured
    have hquiet : (args.debug || config.debug) = false := by
      rw [h.debug, h.quiet config hconfig]
      rfl
    have hmeant : meant args config = Directive.parse task.selecting
        (task.semantics.getD config.semantics) task.directive := by
      rw [meant, h.directive, h.selecting, h.semantics]
    have hprocessor : task.processor = (meant args config).mapError Failure.edit >>= fun s =>
        return .ofSubstitution s args.selecting := by
      rw [hmeant, h.selecting, Task.processor, hconfig]
      rfl
    obtain ⟨w', hreads, hwork⟩ := run_work_of_ok hconfigured hquiet
    refine ⟨w', hreads, ?_⟩
    rw [hwork, hprocessor]
    cases hs : meant args config with
    | error e =>
      rw [run_execute_of_error hs]
      rfl
    | ok s =>
      rw [run_execute_of_ok hs]
      rfl

/-- What is written on a verdict. -/
def written : Except Failure (Stats × Bytes) → Bytes
  | .ok (_, out) => out
  | .error _ => []

/-- The work done in a world comes to a verdict, and some bytes are written to the standard
output. -/
structure Comes (w : World) (verdict : Except Failure (Stats × Bytes)) (output : Bytes)
    (final : Except Failure Stats × World) : Prop where
  result : final.1 = verdict.map (·.1)
  complaints : final.2.complaints = w.complaints
  output : final.2.output = w.output ++ output

/-- The standard input, -/
theorem Called.input (h : Called task args i w) (hfile : args.file = none)
    (hinput : w.input.Delivers content) :
    Comes w (task.verdict content) (written (task.verdict content))
        (World.run (work i args) w) ∧
      (World.run (work i args) w).2.tree = w.tree := by
  obtain ⟨w', ⟨r, rfl⟩, hwork⟩ := h.run_work
  rw [hwork, Task.verdict]
  cases task.processor with
  | error f => exact ⟨⟨rfl, rfl, (List.append_nil _).symm⟩, rfl⟩
  | ok p =>
    have hrun : p.run { w with reading := r }.input .unlimited =
        p.run (.ofBytes content) .unlimited := p.run_of_delivers hinput _
    simp only
    rw [run_edit_input hfile, hrun, p.result_ofBytes]
    exact ⟨⟨rfl, rfl, rfl⟩, rfl⟩

/-- a file whose content is copied, -/
theorem Called.file (h : Called task args i w) {path : Path} {mode : Nat}
    (hfile : args.file = some path) (hplace : args.inPlace = false)
    (hopen : w.system.openFile w.tree path = .ok (.file content mode)) :
    Comes w (task.verdict content) (written (task.verdict content))
        (World.run (work i args) w) ∧
      (World.run (work i args) w).2.tree = w.tree := by
  obtain ⟨w', ⟨r, rfl⟩, hwork⟩ := h.run_work
  rw [hwork, Task.verdict]
  cases task.processor with
  | error f => exact ⟨⟨rfl, rfl, (List.append_nil _).symm⟩, rfl⟩
  | ok p =>
    simp only
    obtain ⟨r', hrun⟩ :=
      run_edit_file (p := p) (w := { w with reading := r }) hfile hplace hopen
    have hcontent : Source.ofContent (Tree.Opened.file content mode).content =
        .ofBytes content := rfl
    rw [hrun, hcontent, p.result_ofBytes]
    exact ⟨⟨rfl, rfl, rfl⟩, rfl⟩

/-- and a file that is edited in place come to the same. -/
theorem Called.inPlace (h : Called task args i w) {path : Path} {mode : Nat}
    (hfile : args.file = some path) (hplace : args.inPlace = true)
    (hopen : w.tree.openFile path = .ok (.file content mode))
    (hwritable : Rewrite.Writable w.system w.tree path) :
    Comes w (task.verdict content) [] (World.run (work i args) w) ∧
      ∀ stats out, task.verdict content = .ok (stats, out) →
        (World.run (work i args) w).2.tree.openFile path = .ok (.file out mode) := by
  obtain ⟨w', ⟨r, rfl⟩, hwork⟩ := h.run_work
  rw [hwork, Task.verdict]
  cases task.processor with
  | error f => exact ⟨⟨rfl, rfl, (List.append_nil _).symm⟩, fun _ _ h => by cases h⟩
  | ok p =>
    simp only
    obtain ⟨w', hrun, haround, htree⟩ := run_edit_inPlace (p := p)
      (w := { w with reading := r }) hfile hplace h.log h.aside
    have hover : p.toEdit.over (.file content mode) 0 =
        ((p.run (.ofBytes content) .unlimited).out,
          .ok (p.run (.ofBytes content) .unlimited).progress.stats) := by
      rw [p.over_toEdit, ← p.result_ofBytes]
      rfl
    obtain ⟨l, hplace', houtcome⟩ := Rewrite.outcome_of_writable hwritable hopen
      (congrArg Prod.snd hover)
    simp only at hrun htree
    rw [houtcome, hover] at htree
    rw [hrun, houtcome]
    refine ⟨⟨rfl, haround.complaints, ?_⟩, ?_⟩
    · rw [List.append_nil]
      exact haround.output
    · rintro stats out ⟨⟩
      simp only
      rw [htree]
      exact Tree.openFile_put_place hopen hplace'

/-! ### The three ways together -/

theorem Failure.exitCode_ne_zero (f : Failure) : f.exitCode ≠ 0 := by
  cases f with
  | edit e => cases e <;> exact Nat.succ_ne_zero _
  | _ => exact Nat.one_ne_zero

/-- What the work comes to is what the program ends with. -/
theorem Comes.plan {verdict : Except Failure (Stats × Bytes)} {output : Bytes}
    (h : Comes w verdict output (World.run (work i args) w))
    (hargs : Arguments.read i.arguments = .ok args) :
    (World.run (plan i) w).1 = status (verdict.map (·.1)) ∧
      (World.run (plan i) w).2.complaints = w.complaints ++ complaint (verdict.map (·.1)) ∧
      (World.run (plan i) w).2.output = w.output ++ output ∧
      (World.run (plan i) w).2.tree = (World.run (work i args) w).2.tree := by
  rw [run_plan_of_work hargs rfl, h.result]
  exact ⟨rfl, congrArg (· ++ _) h.complaints, h.output, rfl⟩

/-- **The ways of input agree.** If the program is called for the same task on some content, from the
standard input, for a file, and for a file to edit in place where that can be done, it ends with the
same status, the same complaint and the same counts. If it succeeds, what it writes to the standard
output in the first two cases is what the file holds in the third, where it writes nothing else. In
the first two cases no file changes. -/
theorem routes_agree {args₁ args₂ args₃ : Arguments} {i₁ i₂ i₃ : Invocation} {w₁ w₂ w₃ : World}
    {path₂ path₃ : Path} {mode₂ mode₃ : Nat}
    (h₁ : Called task args₁ i₁ w₁) (hfile₁ : args₁.file = none)
    (hinput₁ : w₁.input.Delivers content)
    (h₂ : Called task args₂ i₂ w₂) (hfile₂ : args₂.file = some path₂)
    (hplace₂ : args₂.inPlace = false)
    (hopen₂ : w₂.system.openFile w₂.tree path₂ = .ok (.file content mode₂))
    (h₃ : Called task args₃ i₃ w₃) (hfile₃ : args₃.file = some path₃)
    (hplace₃ : args₃.inPlace = true) (hopen₃ : w₃.tree.openFile path₃ = .ok (.file content mode₃))
    (hwritable : Rewrite.Writable w₃.system w₃.tree path₃) :
    let end₁ := World.run (plan i₁) w₁
    let end₂ := World.run (plan i₂) w₂
    let end₃ := World.run (plan i₃) w₃
    (end₁.1 = end₂.1 ∧ end₂.1 = end₃.1) ∧
      (∃ text, end₁.2.complaints = w₁.complaints ++ text ∧
        end₂.2.complaints = w₂.complaints ++ text ∧ end₃.2.complaints = w₃.complaints ++ text) ∧
      ((World.run (work i₁ args₁) w₁).1 = (World.run (work i₂ args₂) w₂).1 ∧
        (World.run (work i₂ args₂) w₂).1 = (World.run (work i₃ args₃) w₃).1) ∧
      (end₁.1 = 0 → ∃ out, end₁.2.output = w₁.output ++ out ∧
        end₂.2.output = w₂.output ++ out ∧
        end₃.2.tree.openFile path₃ = .ok (.file out mode₃) ∧ end₃.2.output = w₃.output) ∧
      end₁.2.tree = w₁.tree ∧ end₂.2.tree = w₂.tree := by
  intro end₁ end₂ end₃
  obtain ⟨hcomes₁, hkeep₁⟩ := h₁.input hfile₁ hinput₁
  obtain ⟨hcomes₂, hkeep₂⟩ := h₂.file hfile₂ hplace₂ hopen₂
  obtain ⟨hcomes₃, hafter⟩ := h₃.inPlace hfile₃ hplace₃ hopen₃ hwritable
  obtain ⟨hstatus₁, htext₁, hout₁, htree₁⟩ := hcomes₁.plan h₁.accepted
  obtain ⟨hstatus₂, htext₂, hout₂, htree₂⟩ := hcomes₂.plan h₂.accepted
  obtain ⟨hstatus₃, htext₃, hout₃, htree₃⟩ := hcomes₃.plan h₃.accepted
  refine ⟨⟨hstatus₁.trans hstatus₂.symm, hstatus₂.trans hstatus₃.symm⟩,
    ⟨_, htext₁, htext₂, htext₃⟩,
    ⟨hcomes₁.result.trans hcomes₂.result.symm, hcomes₂.result.trans hcomes₃.result.symm⟩,
    fun hzero => ?_, htree₁.trans hkeep₁, htree₂.trans hkeep₂⟩
  cases hverdict : task.verdict content with
  | error f =>
    rw [hverdict] at hstatus₁
    exact absurd (hstatus₁.symm.trans hzero) f.exitCode_ne_zero
  | ok r =>
    obtain ⟨stats, out⟩ := r
    rw [hverdict] at hout₁ hout₂
    refine ⟨out, hout₁, hout₂, ?_, hout₃.trans (List.append_nil _)⟩
    change (World.run (plan i₃) w₃).2.tree.openFile path₃ = _
    rw [htree₃]
    exact hafter stats out hverdict

/-- A call for `s/a/b/g`, with some arguments besides. -/
def replacing (arguments : List String) : Invocation :=
  ⟨(["ccsed", "s/a/b/g"] ++ arguments).map bytesOf, none, none⟩

/-- A file of two lines, which also come from the standard input. -/
def twoLines : World :=
  { World.ofTree ⟨[([bytesOf "f"], .file [97, 10, 98] 0o640)]⟩ with input := .ofBytes [97, 10, 98] }

/-- The three calls succeed, and the file that is edited in place holds what the others write. -/
theorem routes_agree_sample :
    let end₁ := World.run (plan (replacing [])) twoLines
    let end₂ := World.run (plan (replacing ["f"])) twoLines
    let end₃ := World.run (plan (replacing ["f", "-i"])) twoLines
    (end₁.1 = 0 ∧ end₂.1 = 0 ∧ end₃.1 = 0) ∧
      end₁.2.output = [98, 10, 98] ∧ end₂.2.output = [98, 10, 98] ∧
      end₃.2.tree.openFile (bytesOf "f") = .ok (.file [98, 10, 98] 0o640) := by
  intro end₁ end₂ end₃
  let task : Task := ⟨"s/a/b/g", false, none, .ok .default⟩
  have hquiet : ∀ config, task.config = .ok config → config.debug = false := by
    rintro config ⟨⟩
    rfl
  have h₁ : Called task ⟨"s/a/b/g", none, false, false, none, false, none⟩ (replacing [])
      twoLines := ⟨rfl, rfl, rfl, rfl, rfl, rfl, hquiet, rfl, rfl⟩
  have h₂ : Called task ⟨"s/a/b/g", some (bytesOf "f"), false, false, none, false, none⟩
      (replacing ["f"]) twoLines := ⟨rfl, rfl, rfl, rfl, rfl, rfl, hquiet, rfl, rfl⟩
  have h₃ : Called task ⟨"s/a/b/g", some (bytesOf "f"), false, true, none, false, none⟩
      (replacing ["f", "-i"]) twoLines := ⟨rfl, rfl, rfl, rfl, rfl, rfl, hquiet, rfl, rfl⟩
  have hopen : twoLines.tree.openFile (bytesOf "f") = .ok (.file [97, 10, 98] 0o640) := rfl
  have hopens : twoLines.system.openFile twoLines.tree (bytesOf "f") =
      .ok (.file [97, 10, 98] 0o640) := rfl
  have hwritable : Rewrite.Writable twoLines.system twoLines.tree (bytesOf "f") :=
    ⟨fun _ _ => rfl, [], 0, rfl, by decide, rfl⟩
  obtain ⟨hstatus, -, -, hsuccess, -⟩ := routes_agree h₁ rfl (Source.ofBytes_delivers _)
    h₂ rfl rfl hopens h₃ rfl rfl hopen hwritable
  have hzero : end₁.1 = 0 := by decide +kernel
  have hout : end₁.2.output = [98, 10, 98] := by decide +kernel
  obtain ⟨out, hout₁, hout₂, hopen₃, -⟩ := hsuccess hzero
  obtain rfl : out = [98, 10, 98] := hout₁.symm.trans hout
  have hzero₂ : end₂.1 = 0 := hstatus.1.symm.trans hzero
  exact ⟨⟨hzero, hzero₂, hstatus.2.symm.trans hzero₂⟩, hout, hout₂, hopen₃⟩

end Program
end StreamEditor
