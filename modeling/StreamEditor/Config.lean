/-
# Configuration

What the program does by default: which semantics flags have, and whether a log is kept. The
configuration is a file in the TOML format, with a table `processing` and a table `logging`. A file
that is not there says nothing; one that is there has to be one that can be read.

Key definitions: `Config`, `Config.ofTable`, `Config.parse`, `ConfigError`, `Config.ofContent`,
`Config.load`, `Home.config`, `Home.log`.
-/
import StreamEditor.Plan
import StreamEditor.Substitution
import StreamEditor.Toml.Decode
import StreamEditor.Toml.Document

namespace StreamEditor

/-- What the program does by default. -/
structure Config where
  semantics : FlagSemantics
  debug : Bool
  deriving DecidableEq, Repr

/-! ### Where files are kept -/

namespace Home

/-- The directory of the program's own files in a home directory. -/
def directory (home : Path) : Path := Path.join home (bytesOf ".ccsed")

/-- The configuration file in a home directory. -/
def config (home : Path) : Path := Path.join (directory home) (bytesOf "config.toml")

/-- The log in a home directory. -/
def log (home : Path) : Path := Path.join (directory home) (bytesOf "ccsed.log")

end Home

namespace Config

open Toml

/-- What is done without a configuration. -/
def default : Config := ⟨.reference, false⟩

/-- The words for the semantics of flags. -/
def semanticsWords : List (String × FlagSemantics) :=
  [FlagSemantics.reference, .sed].map fun s => (s.word, s)

/-- The semantics in the table `processing`. -/
def processing (item : Item) : Except Mismatch FlagSemantics :=
  item.readRecord "ProcessingConfig" ["flag_semantics"]
    (fun name item s => if name == "flag_semantics" then item.choice semanticsWords else .ok s)
    default.semantics

/-- Whether a log is kept, in the table `logging`. -/
def logging (item : Item) : Except Mismatch Bool :=
  item.readRecord "LoggingConfig" ["debug"]
    (fun name item debug => if name == "debug" then item.boolean else .ok debug)
    default.debug

/-- The configuration that a table says. -/
def ofTable (t : Table) : Except Mismatch Config :=
  (Item.table t).readRecord "Config" ["processing", "logging"]
    (fun name item config =>
      if name == "processing" then
        (processing item).map fun semantics => { config with semantics }
      else if name == "logging" then (logging item).map fun debug => { config with debug }
      else .ok config)
    default

/-- The configuration that a text says. -/
def parse (text : String) : Except Report Config := do
  (ofTable (← Toml.parse text)).mapError Mismatch.report

end Config

/-- Why a configuration file is refused. -/
inductive ConfigError where
  | unreadable (path : Path) (cause : SystemError)
  | invalid (path : Path) (text : String) (report : Toml.Report)
  deriving DecidableEq, Repr

namespace ConfigError

/-- What could not be done. -/
def summary : ConfigError → String
  | unreadable path _ => "Failed to read config file: " ++ Path.text path
  | invalid path _ _ => "Invalid config file: " ++ Path.text path

/-- What could not be done, and why. -/
def message (e : ConfigError) : String :=
  e.summary ++ ": " ++
    match e with
    | unreadable _ cause => cause.message
    | invalid _ text report => report.text text

end ConfigError

/-- The configuration in what reading a file gives. -/
def Config.ofContent (p : Path) : Except SystemError Bytes → Except ConfigError Config
  | .error cause => .error (.unreadable p cause)
  | .ok data =>
    match Utf8.decode? data with
    | none => .error (.unreadable p .notText)
    | some text => (parse text).mapError (.invalid p text ·)

/-- Reads the configuration of the file that a path leads to. If it leads to nothing, the
configuration is the default; a file that is there and does not open is refused. -/
def Config.load (p : Path) : Plan (Except ConfigError Config) :=
  .look p fun
    | false => .done (.ok default)
    | true =>
      .openFile p fun
        | .error cause => .done (.error (.unreadable p cause))
        | .ok _ => .read none fun content => .done (ofContent p content)

end StreamEditor
