/-
# The program

The program reads its arguments, then its configuration, then opens the log if one is kept, then
reads the directive, and only then touches its input: a file that it edits in place, a file that it
copies to the standard output with the edit, or the standard input. What fails first is reported,
and nothing after it is done. The program ends with a status: 2 for arguments that are refused, 1
for any other failure.

Key definitions: `Invocation`, `Program.openLog`, `Program.copy`, `Program.rewrite`,
`Program.edit`, `Program.work`, `Program.plan`.
-/
import StreamEditor.CommandLine
import StreamEditor.Config
import StreamEditor.Log.Filter
import StreamEditor.Rewrite

namespace StreamEditor

/-- How the program is started: its arguments, the first of which is its own path, the home
directory if there is one, and the text of the filter for the log, if there is one. -/
structure Invocation where
  arguments : List Bytes
  home : Option Path
  filter : Option String
  deriving DecidableEq, Repr

namespace Program

/-- Why the program fails once its arguments are accepted. -/
inductive Failure where
  | config (e : ConfigError)
  | logDirectory (p : Path) (cause : SystemError)
  | noHome
  | edit (e : EditError)
  deriving DecidableEq, Repr

namespace Failure

/-- A failure in words. -/
def message : Failure → String
  | config e => e.message
  | logDirectory p cause =>
    "Failed to create log directory: " ++ Path.text p ++ ": " ++ cause.message
  | noHome => "Cannot determine home directory"
  | edit e => e.message

/-- The status with which the program ends after a failure. -/
def exitCode : Failure → Nat
  | edit e => e.exitCode
  | _ => 1

end Failure

/-! ### Logging -/

/-- What is logged: the events that the filter lets through, or nothing without a filter. -/
abbrev Journal := Option Log.Filter

/-- The lines that are logged for events. -/
def Journal.lines (j : Journal) (events : List Log.Event) : List String :=
  match j with
  | none => []
  | some filter => (events.filter filter.accepts).map Log.Event.line

/-- Logs events. -/
def note (j : Journal) (events : List Log.Event) : Plan Unit :=
  Plan.logAll (j.lines events)

/-- Opens the log. The program goes on without one if the log itself does not open, but not if the
directory for it cannot be made. -/
def openLog (i : Invocation) : Plan (Except Failure Journal) :=
  match i.home with
  | none => .done (.error .noHome)
  | some home =>
    .makeDirectories (Home.directory home) fun
      | .error cause => .done (.error (.logDirectory (Home.directory home) cause))
      | .ok _ =>
        .openLog (Home.log home) fun
          | .ok _ => do
            let journal := some (Log.Filter.ofText i.filter)
            note journal [.opened (Home.log home)]
            return .ok journal
          | .error cause =>
            .complain
              ("Warning: Could not open log file " ++ Path.text (Home.log home) ++ ": " ++
                cause.message ++ "\n")
              (.done (.ok none))

/-! ### Editing -/

/-- Edits an input to the standard output; `take` takes the input. -/
def copy (j : Journal) (p : Processor)
    (take : (Source → Plan (Except EditError Stats)) → Plan (Except EditError Stats)) :
    Plan (Except EditError Stats) := do
  note j [Log.started p]
  take fun source => do
    let o := p.run source Sink.unlimited
    note j (Log.ofRun o)
    .output o.out (.done o.result)

/-- Edits a file to the standard output. -/
def copyFile (j : Journal) (p : Processor) (path : Path) : Plan (Except EditError Stats) :=
  .openFile path fun
    | .error cause => .done (.error (.fileOpen path cause))
    | .ok _ => copy j p fun next => .read none fun content => next (Source.ofContent content)

/-- Edits a file in place. -/
def rewrite (j : Journal) (p : Processor) (path : Path) : Plan (Except EditError Stats) := do
  let edit := p.toEdit (j.lines [Log.started p]) fun o => j.lines (Log.ofRun o)
  let result ← Rewrite.plan path edit
  note j (if result.toOption.isSome then [.rewrote path] else [])
  return result

/-- Edits what the arguments name with a processor. -/
def edit (j : Journal) (args : Arguments) (p : Processor) : Plan (Except EditError Stats) :=
  match args.file, args.inPlace with
  | some path, true => rewrite j p path
  | some path, false => copyFile j p path
  | none, _ => copy j p .input

/-- Reads the directive of the arguments and does the edit. -/
def execute (j : Journal) (args : Arguments) (config : Config) : Plan (Except EditError Stats) := do
  note j (Log.ofDirective args.selecting args.directive)
  match Directive.parse args.selecting (args.semantics.getD config.semantics) args.directive with
  | .error e => return .error e
  | .ok s =>
    note j [.executing args.directive args.file args.inPlace]
    let result ← edit j args (.ofSubstitution s args.selecting)
    note j (match result with
      | .ok stats => [.completed stats]
      | .error _ => [])
    return result

/-! ### The program as a whole -/

/-- Reads the configuration: of the file that the arguments name, or else of the file in the home
directory. -/
def configure (i : Invocation) (args : Arguments) : Plan (Except ConfigError Config) :=
  match args.config, i.home with
  | some path, _ => Config.load path
  | none, some home => Config.load (Home.config home)
  | none, none => .done (.ok .default)

/-- What the program does with accepted arguments. -/
def work (i : Invocation) (args : Arguments) : Plan (Except Failure Stats) := do
  match ← configure i args with
  | .error e => return .error (.config e)
  | .ok config =>
    let journal ← if args.debug || config.debug then openLog i else .done (.ok none)
    match journal with
    | .error f => return .error f
    | .ok j => return (← execute j args config).mapError .edit

/-- Complains about something, and ends with a status. -/
def abort (message : String) (code : Nat) : Plan Nat :=
  .complain ("error: " ++ message ++ "\n") (.done code)

/-- What the program does, up to its status. -/
def plan (i : Invocation) : Plan Nat := do
  match Arguments.read i.arguments with
  | .error (.notice text) => .output (bytesOf text) (.done 0)
  | .error (.misuse text) => .complain text (.done 2)
  | .error r => abort r.message 2
  | .ok args =>
    match ← work i args with
    | .ok _ => return 0
    | .error f => abort f.message f.exitCode

end Program
end StreamEditor
