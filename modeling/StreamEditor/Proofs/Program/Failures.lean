/-
# Failures before the stream

What can fail before the program touches its input fails in a fixed order: the configuration, then
the directive, then the file. The first failure is all that is told, and nothing else is done. The
system may refuse to open a file that is there; if it is the configuration, or the input, that is
such a failure.
Arguments that lack a directive, or a file to edit in place, are refused before anything is read.
Once all of these are there, the program succeeds exactly if its run or its rewriting does.

Key definitions: `Program.performed`, `Program.Reports`.
Key theorem: `Program.run_plan_in_order`.
-/
import StreamEditor.Proofs.Directive.Grammar
import StreamEditor.Proofs.Program.Quiet

namespace StreamEditor

/-! ### Errors that end with status 1 -/

theorem Directive.exitCode_of_parse {selecting : Bool} {semantics : FlagSemantics} {raw : String}
    {e : EditError} (h : parse selecting semantics raw = .error e) : e.exitCode = 1 := by
  have hdenotes := denotes_parse selecting semantics raw
  rw [h] at hdenotes
  generalize expand raw = text at hdenotes
  cases hdenotes <;> rfl

theorem Processor.exitCode_of_run {p : Processor} {source : Source} {sink : Sink} {e : EditError}
    (h : (p.run source sink).result = .error e) : e.exitCode = 1 := by
  unfold Processor.run Outcome.result at h
  cases hsteps : p.steps ⟨0, ⟨0, 0, 0⟩, [], sink⟩ source.lines with
  | mk cause s =>
    rw [hsteps] at h
    cases cause with
    | some cause =>
      cases h
      rfl
    | none =>
      cases hflush : s.sink.flush with
      | some cause =>
        simp only [hflush] at h
        cases h
        rfl
      | none =>
        cases hending : source.ending with
        | some cause =>
          simp only [hflush, hending] at h
          cases h
          rfl
        | none =>
          simp only [hflush, hending] at h
          cases h

namespace Rewrite

variable {α : Type}

/-- A rewriting that fails ends with status 1, unless its edit ends with another. -/
theorem exitCode_of_outcome {s : System} {t : Tree} {p : Path} {edit : Edit α} {e : EditError}
    (hedit : ∀ file e, (edit.over file 0).2 = .error e → e.exitCode = 1)
    (h : outcome s t p edit = .error e) : e.exitCode = 1 := by
  simp only [outcome, published, Result.bind_eq_error, Result.mapError_eq_error] at h
  obtain ⟨_, -, rfl⟩ | ⟨file, -, h⟩ := h
  · rfl
  obtain ⟨_, -, rfl⟩ | ⟨_, -, h⟩ := h
  · rfl
  obtain ⟨_, -, rfl⟩ | ⟨_, -, h⟩ := h
  · rfl
  obtain h | ⟨_, -, h⟩ := h
  · exact hedit file e h
  obtain ⟨_, -, rfl⟩ | ⟨_, -, h⟩ := h
  · rfl
  obtain ⟨_, -, rfl⟩ | ⟨_, -, h⟩ := h
  · rfl
  obtain ⟨_, -, rfl⟩ | ⟨_, -, h⟩ := h
  · rfl
  cases h

end Rewrite

/-! ### The edit -/

namespace Program

variable {i : Invocation} {args : Arguments} {w : World} {p : Processor}

/-- What the edit that the arguments ask for comes to: the run over a file or over the standard
input, or the rewriting of a file. -/
def performed (w : World) (args : Arguments) (p : Processor) : Except EditError Stats :=
  match args.file, args.inPlace with
  | some path, true => (w.tree.rewrite path p.toEdit w.system).1
  | some path, false => do
    let file ← (w.system.openFile w.tree path).mapError (.fileOpen path)
    (p.run file.source .unlimited).result
  | none, _ => (p.run w.input .unlimited).result

theorem run_edit_fst (hlog : w.log = none) (haside : w.aside = none) :
    (World.run (edit none args p) w).1 = performed w args p := by
  cases hfile : args.file with
  | none =>
    rw [run_edit_input hfile, performed, hfile]
  | some path =>
    cases hplace : args.inPlace with
    | true =>
      obtain ⟨w', hrun, -⟩ := run_edit_inPlace (p := p) hfile hplace hlog haside
      rw [hrun, performed, hfile, hplace]
      simp only [Tree.rewrite_eq]
    | false =>
      rw [performed, hfile, hplace]
      cases hopen : w.system.openFile w.tree path with
      | error cause =>
        rw [run_edit_unopened hfile hopen]
        simp only [hopen]
        rfl
      | ok file =>
        obtain ⟨r, hrun⟩ := run_edit_file (p := p) hfile hplace hopen
        rw [hrun, Source.ofContent_content]
        simp only [hopen]
        rfl

theorem exitCode_of_performed {e : EditError} (h : performed w args p = .error e) :
    e.exitCode = 1 := by
  unfold performed at h
  split at h
  · rw [Tree.rewrite_eq, Result.map_eq_error] at h
    refine Rewrite.exitCode_of_outcome (fun file e he => ?_) h
    rw [Processor.over_toEdit] at he
    exact Processor.exitCode_of_run he
  · rw [Result.bind_eq_error] at h
    obtain h | ⟨file, -, h⟩ := h
    · obtain ⟨_, -, rfl⟩ := Result.mapError_eq_error.mp h
      rfl
    · exact Processor.exitCode_of_run h
  · exact Processor.exitCode_of_run h

/-! ### The order of failures -/

/-- The program has told a failure, and has done nothing else. -/
structure Reports (w : World) (f : Failure) (final : Nat × World) : Prop where
  status : final.1 = 1
  complaints : final.2.complaints = w.complaints ++ bytesOf ("error: " ++ f.message ++ "\n")
  output : final.2.output = w.output
  input : final.2.input = w.input
  tree : final.2.tree = w.tree

theorem reports_of_work {f : Failure} {w' : World} (hargs : Arguments.read i.arguments = .ok args)
    (hwork : World.run (work i args) w = (.error f, w')) (hcode : f.exitCode = 1)
    (hreads : w.Reads w') : Reports w f (World.run (plan i) w) := by
  obtain ⟨r, rfl⟩ := hreads
  rw [run_plan_of_work hargs hwork]
  exact ⟨hcode, rfl, rfl, rfl, rfl⟩

section
variable {config : Config} {s : Substitution} (hargs : Arguments.read i.arguments = .ok args)
  (hconfig : configured w i args = .ok config) (hquiet : (args.debug || config.debug) = false)
include hargs

/-- A configuration that is refused is told before anything else. -/
theorem reports_config {e : ConfigError} (h : configured w i args = .error e) :
    Reports w (.config e) (World.run (plan i) w) := by
  obtain ⟨w', hreads, hwork⟩ := run_work_of_error h
  exact reports_of_work hargs hwork rfl hreads

include hconfig hquiet

/-- A directive that is none is told next, -/
theorem reports_directive {e : EditError} (h : meant args config = .error e) :
    Reports w (.edit e) (World.run (plan i) w) := by
  obtain ⟨w', hreads, hwork⟩ := run_work_of_ok hconfig hquiet
  rw [run_execute_of_error h] at hwork
  exact reports_of_work hargs hwork (Directive.exitCode_of_parse h) hreads

/-- and then a file that does not open. -/
theorem reports_unopened {path : Path} {cause : SystemError} (hs : meant args config = .ok s)
    (hfile : args.file = some path) (hopen : w.system.openFile w.tree path = .error cause) :
    Reports w (.edit (.fileOpen path cause)) (World.run (plan i) w) := by
  obtain ⟨w', ⟨r, rfl⟩, hwork⟩ := run_work_of_ok hconfig hquiet
  have hedit : World.run (edit none args (.ofSubstitution s args.selecting))
      { w with reading := r } = _ := run_edit_unopened hfile hopen
  rw [run_execute_of_ok hs, hedit] at hwork
  exact reports_of_work hargs hwork rfl ⟨r, rfl⟩

/-- With nothing in the way, the status is that of the edit. -/
theorem run_plan_fst (hs : meant args config = .ok s) (hlog : w.log = none)
    (haside : w.aside = none) : (World.run (plan i) w).1 =
      if (performed w args (.ofSubstitution s args.selecting)).toOption.isSome then 0 else 1 := by
  obtain ⟨w', ⟨r, rfl⟩, hwork⟩ := run_work_of_ok hconfig hquiet
  have hedit : (World.run (edit none args (.ofSubstitution s args.selecting))
      { w with reading := r }).1 = performed w args (.ofSubstitution s args.selecting) :=
    run_edit_fst hlog haside
  rw [run_execute_of_ok hs, hedit] at hwork
  rw [run_plan_of_work hargs hwork]
  cases hperformed : performed w args (.ofSubstitution s args.selecting) with
  | ok stats => rfl
  | error e => exact exitCode_of_performed hperformed

end

/-- **The program fails in a fixed order.** Arguments without a directive, or without a file to edit
in place, are refused by a plan that does nothing but complain. Otherwise, and without a log, the
first failure is told, of the configuration, the directive and the file, and nothing else is done.
If there is none of these, the program succeeds exactly if the edit does. -/
theorem run_plan_in_order {taken : CommandLine.Taken} (hlog : w.log = none)
    (haside : w.aside = none)
    (hread : CommandLine.read (Arguments.calledAs i.arguments.head?) false i.arguments.tail .none =
      .ok taken) :
    (taken.directive = none → plan i = abort Refusal.noDirective.message 2) ∧
    (taken.directive ≠ none → taken.switches.contains .inPlace = true → taken.file = none →
      plan i = abort Refusal.noFile.message 2) ∧
    ∀ args, Arguments.ofTaken taken = .ok args → args.debug = false →
      (∀ config, configured w i args = .ok config → config.debug = false) →
      (∀ e, configured w i args = .error e →
        Reports w (.config e) (World.run (plan i) w)) ∧
      ∀ config, configured w i args = .ok config →
        (∀ e, meant args config = .error e → Reports w (.edit e) (World.run (plan i) w)) ∧
        ∀ s, meant args config = .ok s →
          (∀ path cause, args.file = some path → w.system.openFile w.tree path = .error cause →
            Reports w (.edit (.fileOpen path cause)) (World.run (plan i) w)) ∧
          (World.run (plan i) w).1 =
            if (performed w args (.ofSubstitution s args.selecting)).toOption.isSome then 0
            else 1 := by
  have hargs : Arguments.read i.arguments = Arguments.ofTaken taken := by
    rw [Arguments.read, hread]
    rfl
  refine ⟨fun hnone => ?_, fun hsome hplace hnone => ?_, fun args hof hdebug hquiet => ?_⟩
  · rw [plan, hargs, Arguments.ofTaken, hnone]
  · obtain ⟨directive, hdirective⟩ := Option.ne_none_iff_exists'.mp hsome
    rw [plan, hargs, Arguments.ofTaken, hdirective, hplace, hnone]
    rfl
  · rw [hof] at hargs
    refine ⟨fun e he => reports_config hargs he, fun config hconfig => ?_⟩
    have hoff : (args.debug || config.debug) = false := by
      rw [hdebug, hquiet config hconfig]
      rfl
    refine ⟨fun e he => reports_directive hargs hconfig hoff he, fun s hs => ⟨?_, ?_⟩⟩
    · exact fun path cause hfile hopen => reports_unopened hargs hconfig hoff hs hfile hopen
    · exact run_plan_fst hargs hconfig hoff hs hlog haside

/-- An edit in place with a directive of three fields, of a file that is not there either, with some
arguments besides. -/
def broken (arguments : List String) : Invocation :=
  ⟨(["ccsed", "-i", "s/a/b", "missing"] ++ arguments).map bytesOf, none, none⟩

/-- A file that is there and may not be opened. -/
def locked : World :=
  .ofTree ⟨[([bytesOf "c"], .file [] 0o000)]⟩
    { System.willing with
      refusal := fun step => if step = .openFile (bytesOf "c") then some (.numbered 13) else none }

/-- The fields are told, and not the file; before them it is told that the configuration may not be
opened. -/
theorem run_plan_in_order_sample :
    Reports (.ofTree ⟨[]⟩) (.edit (.directive (.fieldCount "s/a/b" 3)))
        (World.run (plan (broken [])) (.ofTree ⟨[]⟩)) ∧
      Reports locked (.config (.unreadable (bytesOf "c") (.numbered 13)))
        (World.run (plan (broken ["--config", "c"])) locked) := by
  have hread : CommandLine.read (Arguments.calledAs (broken []).arguments.head?) false
      (broken []).arguments.tail .none =
        .ok ⟨some "s/a/b", some (bytesOf "missing"), none, none, [.inPlace], none, 2⟩ := rfl
  have hread' : CommandLine.read (Arguments.calledAs (broken ["--config", "c"]).arguments.head?)
      false (broken ["--config", "c"]).arguments.tail .none =
        .ok ⟨some "s/a/b", some (bytesOf "missing"), some (bytesOf "c"), none, [.config, .inPlace],
          none, 2⟩ := rfl
  have hquiet : ∀ config, Except.ok Config.default = (.ok config : Except ConfigError Config) →
      config.debug = false := by
    rintro config ⟨⟩
    rfl
  obtain ⟨-, -, haccepted⟩ := run_plan_in_order (w := .ofTree ⟨[]⟩) rfl rfl hread
  obtain ⟨-, hloaded⟩ := haccepted _ rfl rfl hquiet
  obtain ⟨-, -, haccepted'⟩ := run_plan_in_order (w := locked) rfl rfl hread'
  obtain ⟨hrefused, -⟩ := haccepted' _ rfl rfl nofun
  exact ⟨(hloaded .default rfl).1 _ rfl, hrefused _ rfl⟩

end Program
end StreamEditor
