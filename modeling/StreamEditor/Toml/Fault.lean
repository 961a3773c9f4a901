/-
# Faults of a configuration text

A text in the TOML format is read from the front; the first fault ends the reading. A fault names
the construct it lies in, what could have stood at its place, and its cause where a construct is
well formed and still refused. A fault has begun if it lies inside a construct that had already
begun: then no other reading of the text is tried.

Key definitions: `Toml.Span`, `Toml.Key`, `Toml.Cause`, `Toml.Fault`, `Toml.Fault.message`,
`Toml.Report`, `Toml.Report.text`.
-/
import StreamEditor.Text.Bytes
import StreamEditor.Text.Numeral
import StreamEditor.Text.Quoted

namespace StreamEditor
namespace Toml

/-- A stretch of a text, in bytes: where it starts and where it stops. -/
structure Span where
  start : Nat
  stop : Nat
  deriving DecidableEq, Repr

/-- A key with the place it was written at. -/
structure Key where
  text : String
  span : Span
  deriving DecidableEq, Repr

/-! ### Keys as they are shown -/

/-- Whether a character may stand in a key without quotes. -/
def isBare (c : Char) : Bool :=
  decide (c.toNat < 128) && (c.isAlphanum || c == '-' || c == '_')

/-- Whether a character is a control character other than the tab. -/
def isControl (c : Char) : Bool :=
  decide (c.toNat < 32) && c != '\t' || c.toNat == 127

/-- A character between double quotes. -/
def quotedChar (c : Char) : List Char :=
  match c with
  | '\x08' => ['\\', 'b']
  | '\t' => ['\\', 't']
  | '\n' => ['\\', 'n']
  | '\x0c' => ['\\', 'f']
  | '\r' => ['\\', 'r']
  | '"' => ['\\', '"']
  | '\\' => ['\\', '\\']
  | c =>
    if isControl c then
      ['\\', 'u', '0', '0'] ++
        [Quoted.hexDigit true (c.toNat / 16), Quoted.hexDigit true (c.toNat % 16)]
    else [c]

namespace Key

/-- A key as it is shown: bare if it can be, else between the quotes that leave it as it is, else
with escapes. -/
def shown (k : Key) : String :=
  let cs := k.text.toList
  if !cs.isEmpty && cs.all isBare then k.text
  else if cs.any (fun c => isControl c || c == '"' || c == '\\')
      && !cs.any (fun c => isControl c || c == '\'') then
    String.ofList ('\'' :: (cs ++ ['\'']))
  else String.ofList ('"' :: (cs.flatMap quotedChar ++ ['"']))

/-- A path of keys as it is shown. -/
def path (ks : List Key) : String :=
  ".".intercalate (ks.map shown)

end Key

/-! ### Faults -/

/-- The constructs that a fault can lie in. -/
inductive Construct where
  | key
  | tableHeader
  | string
  | basicString
  | multilineBasicString
  | literalString
  | multilineLiteralString
  | escapeSequence
  | shortCode
  | longCode
  | integer
  | hexadecimal
  | octal
  | binary
  | float
  | dateTime
  | time
  | timeOffset
  | array
  | inlineTable
  deriving DecidableEq, Repr

/-- A construct in words. -/
def Construct.what : Construct → String
  | key => "key"
  | tableHeader => "table header"
  | string => "string"
  | basicString => "basic string"
  | multilineBasicString => "multiline basic string"
  | literalString => "literal string"
  | multilineLiteralString => "multiline literal string"
  | escapeSequence => "escape sequence"
  | shortCode => "unicode 4-digit hex code"
  | longCode => "unicode 8-digit hex code"
  | integer => "integer"
  | hexadecimal => "hexadecimal integer"
  | octal => "octal integer"
  | binary => "binary integer"
  | float => "floating-point number"
  | dateTime => "date-time"
  | time => "time"
  | timeOffset => "time offset"
  | array => "array"
  | inlineTable => "inline table"

/-- What could have stood at the place of a fault. -/
inductive Expected where
  | newline
  | token (text : String)
  | words (text : String)
  deriving DecidableEq, Repr

/-- What could have stood at the place of a fault, in words. -/
def Expected.what : Expected → String
  | newline => "newline"
  | token text => "`" ++ text ++ "`"
  | words text => text

/-- Why a construct that is well formed is refused. -/
inductive Cause where
  /-- A part of a date or of a time, or the code of a character, that there is not. -/
  | outOfRange
  /-- Too many constructs inside each other. -/
  | tooDeep
  | number (fault : Numeral.Fault)
  /-- A key that is there already, in a table whose path is given where it is told. -/
  | duplicate (key : String) (table : Option (List Key))
  /-- A path of keys that leads through what is no table. -/
  | extension (path : List Key) (kind : String)
  deriving DecidableEq, Repr

/-- A cause in words. -/
def Cause.what : Cause → String
  | outOfRange => "value is out of range"
  | tooDeep => "recursion limit exceeded"
  | number fault => fault.message
  | duplicate key none => "duplicate key `" ++ key ++ "`"
  | duplicate key (some []) => "duplicate key `" ++ key ++ "` in document root"
  | duplicate key (some table) =>
    "duplicate key `" ++ key ++ "` in table `" ++ Key.path table ++ "`"
  | extension path kind =>
    "dotted key `" ++ Key.path path ++ "` attempted to extend non-table type (" ++ kind ++ ")"

/-- A fault: its place, the innermost construct it lies in, what was expected there, its cause,
and whether it has begun. -/
structure Fault where
  pos : Nat
  construct : Option Construct
  expected : List Expected
  cause : Option Cause
  begun : Bool
  deriving DecidableEq, Repr

namespace Fault

/-- A fault of which the place alone is known. -/
def bare (pos : Nat) : Fault := ⟨pos, none, [], none, false⟩

/-- A fault with a cause. -/
def caused (pos : Nat) (cause : Cause) : Fault := ⟨pos, none, [], some cause, false⟩

/-- A fault in a construct, unless it lies in one inside it. -/
def within (construct : Construct) (f : Fault) : Fault :=
  { f with construct := f.construct <|> some construct }

/-- A fault with more that could have stood at its place. -/
def expecting (expected : List Expected) (f : Fault) : Fault :=
  { f with expected := f.expected ++ expected }

/-- A fault inside a construct that had begun. -/
def firm (f : Fault) : Fault := { f with begun := true }

/-- A fault in words, without its place. -/
def message (f : Fault) : String :=
  let expected :=
    if f.expected.isEmpty then none
    else some ("expected " ++ ", ".intercalate (f.expected.map Expected.what))
  "\n".intercalate
    ([f.construct.map ("invalid " ++ ·.what), expected, f.cause.map Cause.what].filterMap id)

end Fault

/-! ### Reports -/

/-- A message about a text, with the stretch that it is about. -/
structure Report where
  message : String
  span : Option Span
  deriving DecidableEq, Repr

/-- The characters of a line up to a place in bytes, and the rest. -/
def splitAtByte : Nat → List Char → List Char × List Char
  | _, [] => ([], [])
  | 0, cs => ([], cs)
  | n + 1, c :: cs =>
    let (before, after) := splitAtByte (n + 1 - c.utf8Size) cs
    (c :: before, after)

namespace Report

/-- The report of a fault: it is about the character at the place of the fault. -/
def ofFault (text : String) (f : Fault) : Report :=
  let size := match (splitAtByte f.pos text.toList).2 with
    | c :: _ => c.utf8Size
    | [] => 0
  ⟨f.message, some ⟨f.pos, f.pos + size⟩⟩

/-- The place of a byte in a text: its line and its column, counted from zero. Columns count
characters, but bytes before a character that is no ASCII character itself. The end of the text
is the column behind its last character, also when that is a line feed. -/
def place (text : String) (start : Nat) : Nat × Nat :=
  let (before, after) := splitAtByte start text.toList
  match after with
  | c :: _ =>
    let column := before.reverse.takeWhile (· != '\n')
    (before.count '\n',
      if c.toNat < 128 then column.length else column.foldl (fun size c => size + c.utf8Size) 0)
  | [] =>
    match before.reverse with
    | [] => (0, start)
    | _ :: rest => (rest.count '\n', (rest.takeWhile (· != '\n')).length + 1)

/-- A report with the line that it is about, the stretch marked by carets. -/
def text (source : String) (r : Report) : String :=
  match r.span with
  | none => r.message ++ "\n"
  | some span =>
    let (line, column) := place source span.start
    let number := toString (line + 1)
    let content := (source.splitOn "\n").getD line ""
    let margin := "".pushn ' ' (number.length + 1) ++ "|"
    let marked := min (span.stop - span.start) (content.utf8ByteSize - column)
    "TOML parse error at line " ++ number ++ ", column " ++ toString (column + 1) ++ "\n" ++
      margin ++ "\n" ++ number ++ " | " ++ content ++ "\n" ++
      margin ++ "".pushn ' ' (column + 1) ++ "".pushn '^' (max 1 marked) ++ "\n" ++
      r.message ++ "\n"

end Report
end Toml
end StreamEditor
