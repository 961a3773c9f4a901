/-
# What can go wrong in an edit

Every failure of an edit is one of these causes: bad arguments, a directive that is none, a
pattern that does not compile, a file that does not open, input that cannot be read, output that
cannot be written, or a file that cannot be replaced. The wording of each stands here, and the
status with which the program ends.

Key definitions: `DirectiveError`, `EditError`, `EditError.message`, `EditError.exitCode`.
-/
import StreamEditor.LineRange
import StreamEditor.Regex.Diagnosis
import StreamEditor.SystemError

namespace StreamEditor

/-- Why a text is no directive. -/
inductive DirectiveError where
  | fieldCount (directive : String) (found : Nat)
  | range (directive : String) (reason : RangeError)
  deriving DecidableEq, Repr

/-- A fault of a directive in words. -/
def DirectiveError.message : DirectiveError → String
  | fieldCount directive found =>
    "malformed substitution " ++ Quoted.text directive ++ ": expected 4 '/'-separated fields " ++
      "(s/pattern/replacement/flag), found " ++ toString found
  | range directive reason =>
    "could not parse substitution: " ++ directive ++ ": " ++ reason.message

/-- Why an edit fails. -/
inductive EditError where
  | argument (message : String)
  | directive (e : DirectiveError)
  | pattern (e : Regex.PatternError)
  | fileOpen (path : Bytes) (cause : SystemError)
  | read (line : Nat) (cause : SystemError)
  | write (cause : SystemError)
  | inPlace (path : Bytes) (message : String)
  deriving DecidableEq, Repr

namespace EditError

/-- What to do about a file that does not open. -/
def openHint (path : Bytes) (cause : SystemError) : String :=
  let shown := Utf8.lossy path
  match cause.kind with
  | .notFound =>
    "File not found: '" ++ shown ++ "'\n\nPossible fixes:\n" ++
      "1. Check the file path is correct\n" ++
      "2. Omit the file argument to read from standard input"
  | .permissionDenied =>
    "Permission denied when opening '" ++ shown ++ "'\n\nPossible fixes:\n" ++
      "1. Check file permissions: ls -l '" ++ shown ++ "'\n" ++
      "2. Pipe the content instead: cat '" ++ shown ++ "' | ccsed ..."
  | _ => "Cannot open '" ++ shown ++ "': " ++ cause.message

/-- An error in words. -/
def message : EditError → String
  | argument message => message
  | directive e => e.message
  | pattern e => e.message
  | fileOpen path cause => openHint path cause ++ "\n  cause: " ++ cause.message
  | read line cause =>
    "error reading input after line " ++ toString line ++ ": " ++ cause.message
  | write cause => "error writing output: " ++ cause.message
  | inPlace path message => "in-place edit of " ++ Utf8.lossy path ++ " failed: " ++ message

/-- The status with which the program ends after an error: 2 for bad arguments, else 1. -/
def exitCode : EditError → Nat
  | argument _ => 2
  | _ => 1

end EditError
end StreamEditor
