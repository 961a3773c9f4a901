/-
# The command line

The program takes switches and up to two operands, in any order: a directive and a file. Switches
with letters can be written together. The value of a switch follows behind an equals sign, or as
the next argument, which does not begin with a hyphen unless it is one. After two hyphens alone all
arguments are operands. Arguments are taken one after the other, and the value of a switch and an
operand only when the next one is read, so a fault may be told before one that stands earlier.

Key definitions: `Arguments`, `CommandLine.Taken`, `CommandLine.settle`, `CommandLine.read`,
`Arguments.read`.
-/
import StreamEditor.CommandLine.Refusal
import StreamEditor.Files.Path

namespace StreamEditor

/-- What the program was called with. -/
structure Arguments where
  directive : String
  file : Option Path
  selecting : Bool
  inPlace : Bool
  config : Option Path
  debug : Bool
  semantics : Option FlagSemantics
  deriving DecidableEq, Repr

namespace CommandLine

/-- An argument that is read and not yet taken: a switch whose value may be next, or an operand. -/
inductive Pending where
  | value (s : Switch) (value : Option Bytes)
  | directive (arg : Bytes)
  | file (arg : Bytes)
  deriving DecidableEq, Repr

/-- The arguments taken so far, the switches among them from the last to the first, the one that
is not yet taken, and the number of operands. -/
structure Taken where
  directive : Option String
  file : Option Path
  config : Option Path
  semantics : Option FlagSemantics
  switches : List Switch
  pending : Option Pending
  operands : Nat
  deriving DecidableEq, Repr

/-- Nothing taken. -/
def Taken.none : Taken := ⟨.none, .none, .none, .none, [], .none, 0⟩

/-- The usage that tells what was taken. -/
def Taken.usage (t : Taken) : Usage :=
  let waiting : Nat :=
    match t.pending with
    | some (.directive _) => 1
    | some (.file _) => 1
    | _ => 0
  ⟨t.switches.reverse, decide (1 ≤ t.operands - waiting), decide (2 ≤ t.operands - waiting)⟩

/-! ### Taking arguments -/

/-- Takes a switch that has no value. One that is given again is no longer taken. -/
def takeSwitch (s : Switch) (t : Taken) : Option Misuse × Taken :=
  if t.switches.contains s then (some (.repeated s), { t with switches := t.switches.erase s })
  else (none, { t with switches := s :: t.switches })

/-- Takes a switch with its value. -/
def takeValue (s : Switch) (value : Bytes) (t : Taken) : Option Misuse × Taken :=
  match takeSwitch s t with
  | (some m, t) => (some m, t)
  | (none, t) =>
    match s with
    | .semantics =>
      match FlagSemantics.ofWord? (Utf8.lossy value) with
      | some mode => (none, { t with semantics := some mode })
      | none =>
        if value.isEmpty then (some (.valueMissing (.switch s)), t)
        else (some (.valueInvalid (.switch s) (Utf8.lossy value)), t)
    | _ =>
      if value.isEmpty then (some (.valueMissing (.switch s)), t)
      else (none, { t with config := some value })

/-- Takes the argument that is read and not yet taken. -/
def settle (t : Taken) : Option Misuse × Taken :=
  let rest := { t with pending := none }
  match t.pending with
  | none => (none, t)
  | some (.value s none) => (some (.valueMissing (.switch s)), rest)
  | some (.value s (some value)) => takeValue s value rest
  | some (.directive arg) =>
    match Utf8.decode? arg with
    | some directive => (none, { rest with directive := some directive })
    | none => (some .notText, rest)
  | some (.file arg) =>
    if arg.isEmpty then (some (.valueMissing .file), rest)
    else (none, { rest with file := some arg })

/-- Goes on once the argument that is not yet taken is, unless that fails. -/
def settled {α : Type} (called : String) (t : Taken) (next : Taken → Except Refusal α) :
    Except Refusal α :=
  match settle t with
  | (some m, _) => .error (.misuse (m.message called))
  | (none, t) => next t

/-! ### Reading arguments -/

/-- What is shown for a switch that asks for a text. -/
def notice (called : String) (s : Switch) (long : Bool) : String :=
  match s, long with
  | .version, true => Help.longVersion
  | .version, false => Help.version
  | _, true => Help.long called
  | _, false => Help.short called

/-- Reads a switch without a value. -/
def readSwitch (called : String) (s : Switch) (long : Bool) (t : Taken) : Except Refusal Taken :=
  settled called t fun t =>
    if s.isNotice then .error (.notice (notice called s long))
    else
      match takeSwitch s t with
      | (some m, _) => .error (.misuse (m.message called))
      | (none, t) => .ok t

/-- Reads letters behind a hyphen, of which those left of bytes that are no text are in `letters`
and the others in `broken`. -/
def readLetters (called : String) (broken : Bytes) : List Char → Taken → Except Refusal Taken
  | [], t =>
    if broken.isEmpty then .ok t
    else
      let misuse : Misuse := .unexpected ("-" ++ Utf8.lossy broken) none true .general
      .error (.misuse (misuse.message called))
  | c :: cs, t =>
    match Switch.ofLetter? c with
    | some s => do readLetters called broken cs (← readSwitch called s false t)
    | none =>
      .error (.misuse
        ((Misuse.unexpected (String.ofList ['-', c]) none true .general).message called))

/-- The characters at the front of some bytes, and the bytes from the first broken part on. -/
def splitText : Nat → Bytes → List Char × Bytes
  | _, [] => ([], [])
  | skip + 1, _ :: rest => splitText skip rest
  | 0, b :: rest =>
    match Utf8.head (b :: rest) with
    | .scalar code size =>
      let (chars, broken) := splitText (size - 1) rest
      (Char.ofNat code :: chars, broken)
    | _ => ([], b :: rest)

/-- Refuses a name behind two hyphens that no switch has. What is pending is taken first, for the
usage, and its own fault passed over. -/
def refuseName (name : String) (t : Taken) : Misuse :=
  let (_, t) := settle t
  let similar := Similarity.closest name (Switch.names.map (·.1))
  let usage : Usage :=
    match similar.bind Switch.ofName? with
    | some s => t.usage.telling s
    | none => t.usage
  .unexpected ("--" ++ name) similar true usage

/-- Reads what stands behind two hyphens: a name, and a value behind an equals sign. -/
def readName (called : String) (text : Bytes) (t : Taken) : Except Refusal Taken :=
  let equals : UInt8 := 61
  let name := text.takeWhile (· != equals)
  let value? := if text.contains equals then some (text.drop (name.length + 1)) else none
  match (Utf8.decode? name).bind Switch.ofName?, value? with
  | some s, some value =>
    if s.valueName?.isSome then
      settled called t fun t =>
        match takeValue s value t with
        | (some m, _) => .error (.misuse (m.message called))
        | (none, t) => .ok t
    else
      let misuse : Misuse := .valueUnexpected s (Utf8.lossy value) (t.usage.telling s)
      .error (.misuse (misuse.message called))
  | some s, none =>
    if s.valueName?.isSome then
      settled called t fun t => .ok { t with pending := some (.value s none) }
    else readSwitch called s true t
  | none, _ => .error (.misuse ((refuseName (Utf8.lossy name) t).message called))

/-- Reads an operand. -/
def readOperand (called : String) (arg : Bytes) (t : Taken) : Except Refusal Taken :=
  match t.operands with
  | 0 => settled called t fun t => .ok { t with pending := some (.directive arg), operands := 1 }
  | 1 => settled called t fun t => .ok { t with pending := some (.file arg), operands := 2 }
  | _ =>
    .error (.misuse ((Misuse.unexpected (Utf8.lossy arg) none false .general).message called))

/-- Whether the next argument may be the value of a switch. -/
def awaitsValue (t : Taken) : Option Switch :=
  match t.pending with
  | some (.value s none) => some s
  | _ => none

/-- The byte that switches begin with. -/
def hyphen : UInt8 := 45

/-- Reads arguments; `operands` tells that all of them are operands. -/
def read (called : String) : Bool → List Bytes → Taken → Except Refusal Taken
  | _, [], t => settled called t .ok
  | true, arg :: args, t => do read called true args (← readOperand called arg t)
  | false, arg :: args, t =>
    match arg with
    | [45, 45] => read called true args t
    | 45 :: 45 :: text => do read called false args (← readName called text t)
    | 45 :: b :: text => do
      let (letters, broken) := splitText 0 (b :: text)
      read called false args (← readLetters called broken letters t)
    | _ =>
      match awaitsValue t with
      | some s => read called false args { t with pending := some (.value s (some arg)) }
      | none => do read called false args (← readOperand called arg t)

end CommandLine

namespace Arguments

/-- The name that the program was called by: the last name of the path it was started with. -/
def calledAs (program : Option Bytes) : String :=
  ((program.bind Path.fileName).bind Utf8.decode?).getD Help.programName

/-- The arguments that were taken, if a directive was, and a file to edit in place. -/
def ofTaken (t : CommandLine.Taken) : Except Refusal Arguments :=
  match t.directive with
  | none => .error .noDirective
  | some directive =>
    let inPlace := t.switches.contains .inPlace
    if inPlace && t.file.isNone then .error .noFile
    else
      .ok ⟨directive, t.file, t.switches.contains .quiet, inPlace, t.config,
        t.switches.contains .debug, t.semantics⟩

/-- Reads a list of arguments, the first of which is the path of the program. -/
def read (args : List Bytes) : Except Refusal Arguments := do
  ofTaken (← CommandLine.read (calledAs args.head?) false args.tail .none)

end Arguments
end StreamEditor
