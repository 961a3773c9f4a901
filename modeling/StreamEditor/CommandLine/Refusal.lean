/-
# Arguments that are refused

Arguments that do not follow the grammar of the command line are refused with a text that is
complete: it says what is wrong, what may have been meant, and how the program is called. What the
program is called with otherwise is told by a short sentence. The usage that a refusal ends with
depends on what was taken before: once a switch or an operand was, the usage tells the switches and
marks the operands that were.

Key definitions: `Usage`, `Misuse`, `Misuse.message`, `Refusal`.
-/
import StreamEditor.CommandLine.Help
import StreamEditor.CommandLine.Switch
import StreamEditor.Substitution
import StreamEditor.Text.Similarity

namespace StreamEditor

/-- The usage that a refusal ends with: the switches that it tells, and whether a directive and a
file were given. -/
structure Usage where
  switches : List Switch
  directive : Bool
  file : Bool
  deriving DecidableEq, Repr

namespace Usage

/-- The usage in general, which tells nothing that was given. -/
def general : Usage := ⟨[], false, false⟩

/-- A usage that tells one more switch. -/
def telling (s : Switch) (u : Usage) : Usage :=
  if u.switches.contains s then u else { u with switches := u.switches ++ [s] }

/-- The place of an operand, which need not be given unless it was. -/
def operand (name : String) (given : Bool) : String :=
  if given then " <" ++ name ++ ">" else " [" ++ name ++ "]"

/-- A usage in words, for a program called by a name. -/
def text (called : String) (u : Usage) : String :=
  if u = general then Help.usage called
  else
    "Usage: " ++ called ++ String.join (u.switches.map fun s => " " ++ s.shown) ++
      operand "DIRECTIVE" u.directive ++ operand "FILE" u.file ++ "\n"

end Usage

/-- What a value is missing for, or given to. -/
inductive Slot where
  | switch (s : Switch)
  | file
  deriving DecidableEq, Repr

namespace Slot

/-- A slot as it is shown. -/
def shown : Slot → String
  | switch s => s.shown
  | file => "[FILE]"

/-- The values that a slot takes, if they are words. -/
def words : Slot → List String
  | switch .semantics => [FlagSemantics.reference, .sed].map FlagSemantics.word
  | _ => []

end Slot

/-- How arguments can fail to follow the grammar of the command line. -/
inductive Misuse where
  /-- An argument that is none, with the switch that may have been meant, or else the advice to
  mark it as a value. -/
  | unexpected (arg : String) (similar : Option String) (marking : Bool) (usage : Usage)
  | repeated (s : Switch)
  | valueMissing (slot : Slot)
  | valueInvalid (slot : Slot) (value : String)
  | valueUnexpected (s : Switch) (value : String) (usage : Usage)
  | notText
  deriving DecidableEq, Repr

namespace Misuse

/-- The values that a slot takes, on a line of their own. -/
def wordList (slot : Slot) : String :=
  if slot.words.isEmpty then ""
  else "\n  [possible values: " ++ ", ".intercalate slot.words ++ "]"

/-- What is wrong, and advice. -/
def what : Misuse → String
  | unexpected arg similar marking _ =>
    "unexpected argument '" ++ arg ++ "' found" ++
      match similar, marking with
      | some name, _ => "\n\n  tip: a similar argument exists: '--" ++ name ++ "'"
      | none, true =>
        "\n\n  tip: to pass '" ++ arg ++ "' as a value, use '-- " ++ arg ++ "'"
      | none, false => ""
  | repeated s => "the argument '" ++ s.shown ++ "' cannot be used multiple times"
  | valueMissing slot =>
    "a value is required for '" ++ slot.shown ++ "' but none was supplied" ++ wordList slot
  | valueInvalid slot value =>
    "invalid value '" ++ value ++ "' for '" ++ slot.shown ++ "'" ++ wordList slot ++
      match Similarity.closest value slot.words with
      | some word => "\n\n  tip: a similar value exists: '" ++ word ++ "'"
      | none => ""
  | valueUnexpected s value _ =>
    "unexpected value '" ++ value ++ "' for '" ++ s.shown ++ "' found; no more were expected"
  | notText => "invalid UTF-8 was detected in one or more arguments"

/-- The usage that a refusal ends with, if any. -/
def usage? : Misuse → Option Usage
  | unexpected _ _ _ usage => some usage
  | repeated _ => some .general
  | valueMissing _ => none
  | valueInvalid _ _ => none
  | valueUnexpected _ _ usage => some usage
  | notText => some .general

/-- The complete text of a refusal, for a program called by a name. -/
def message (called : String) (m : Misuse) : String :=
  "error: " ++ m.what ++ "\n\n" ++
    (match m.usage? with
      | some usage => usage.text called ++ "\n"
      | none => "") ++
    "For more information, try '--help'.\n"

end Misuse

/-- What comes of arguments that ask for no edit. -/
inductive Refusal where
  /-- A text that was asked for. -/
  | notice (text : String)
  /-- Arguments that do not follow the grammar, with the complete text. -/
  | misuse (text : String)
  | noDirective
  | noFile
  deriving DecidableEq, Repr

namespace Refusal

/-- A refusal in words. -/
def message : Refusal → String
  | notice text => text
  | misuse text => text
  | noDirective =>
    "Please provide a substitution directive. Usage: ccsed [-n] [-i] 's/old/new/g' [FILE]"
  | noFile => "In-place editing (-i) requires an input file"

end Refusal
end StreamEditor
