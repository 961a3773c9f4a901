/-
# Reading patterns

A pattern is read from left to right with the groups still open on a stack. The reader stops at
the first fault; a group that is never closed is a fault at the end of the pattern, and the
innermost one is blamed. A pattern that could be read is refused if it nests too deeply.

Key definitions: `Regex.Tree.Body`, `Regex.Tree.Reader`, `Regex.Tree.step`, `Regex.Tree.parse`.
-/
import StreamEditor.Regex.Tree.Bracket
import StreamEditor.Regex.Tree.Nesting
import StreamEditor.Unicode.Property

namespace StreamEditor
namespace Regex
namespace Tree

open Cursor

/-! ### Bodies of groups -/

/-- What has been read of the body of a group: the branches that a bar has ended, and the parts
of the branch being read, in both lists the latest first. -/
structure Body where
  start : Position
  branches : List Tree
  branchStart : Position
  parts : List Tree

namespace Body

/-- The body of which nothing has been read. -/
def fresh (p : Position) : Body := ⟨p, [], p, []⟩

/-- The branch being read, if it ends here. -/
def branch (b : Body) (stop : Position) : Tree :=
  match b.parts with
  | [] => .empty ⟨b.branchStart, stop⟩
  | [part] => part
  | parts => .concat ⟨b.branchStart, stop⟩ parts.reverse

/-- The whole body, if it ends here. -/
def tree (b : Body) (stop : Position) : Tree :=
  match b.branches with
  | [] => b.branch stop
  | branches => .alternation ⟨b.start, stop⟩ (b.branch stop :: branches).reverse

/-- The body with one more part. -/
def push (b : Body) (part : Tree) : Body :=
  { b with parts := part :: b.parts }

/-- The body after a bar. -/
def bar (b : Body) (before after : Position) : Body :=
  { b with branches := b.branch before :: b.branches, branchStart := after, parts := [] }

end Body

/-- A group that is still open: the span of its parenthesis, its kind, whether blanks counted
outside it, and the body it stands in. -/
structure Opened where
  span : Span
  kind : GroupKind
  verbose : Bool
  outer : Body

/-- All that the reader knows between two steps. -/
structure Reader where
  cursor : Cursor
  groups : Nat
  names : List (String × Span)
  body : Body
  opened : List Opened

/-! ### Groups -/

/-- Reads a list of flags up to the colon or parenthesis that ends it. `seen` holds the items
before with their spans, the latest first. -/
def readFlags : List (FlagItem × Span) → List Char → Position →
    Except SyntaxError (List FlagItem × List Char × Position)
  | _, [], p => fail .flagUnexpectedEnd ⟨p, p⟩
  | seen, ch :: cs, p =>
    let span : Span := ⟨p, p.after ch⟩
    if ch == ':' || ch == ')' then
      match seen with
      | (.negation, dangling) :: _ => fail .flagDanglingNegation dangling
      | _ => .ok ((seen.map Prod.fst).reverse, ch :: cs, p)
    else
      let item? := if ch == '-' then some .negation else (Flag.ofChar? ch).map .flag
      match item? with
      | none => fail .flagUnrecognized span
      | some item =>
        match seen.find? fun earlier => earlier.1 == item with
        | some earlier =>
          let fault := if item == .negation then .flagRepeatedNegation else .flagDuplicate
          failAgainst fault span earlier.2
        | none => readFlags ((item, span) :: seen) cs (p.after ch)

/-- Whether a character may stand in the name of a group. -/
def isNameChar (c : Char) (first : Bool) : Bool :=
  if c.toNat < 128 then
    c == '_' || c.isAlpha || !first && (c.isDigit || c == '.' || c == '[' || c == ']')
  else
    Unicode.Binary.alphabetic.mem c.toNat || !first && Unicode.Property.numeric.mem c.toNat

/-- Reads the name of a group up to the angle bracket behind it. -/
def readName : List Char → List Char → Position →
    Except SyntaxError (List Char × List Char × Position)
  | _, [], p => fail .groupNameUnexpectedEnd ⟨p, p⟩
  | name, ch :: cs, p =>
    if ch == '>' then .ok (name.reverse, cs, p)
    else if isNameChar ch name.isEmpty then readName (ch :: name) cs (p.after ch)
    else fail .groupNameInvalid ⟨p, p.after ch⟩

/-- What an opening parenthesis begins. -/
inductive GroupHead where
  | setFlags (items : List FlagItem)
  | plain (items : List FlagItem)
  | capture
  | named (name : String) (span : Span)

/-- Reads the head of a group with a name; `c` is before the name. -/
def readNamedHead (c : Cursor) : Except SyntaxError (GroupHead × Cursor) := do
  let (name, rest, stop) ← readName [] c.rest c.pos
  if name.isEmpty then fail .groupNameEmpty c.here
  else .ok (.named (String.ofList name) ⟨c.pos, stop⟩, { c with rest, pos := stop.after '>' })

/-- Reads the head of a group with flags. `inner` is before the question mark, `c` behind it.
Without a flag the question mark is a repetition with nothing to repeat. -/
def readFlagsHead (parenthesis : Span) (inner c : Cursor) :
    Except SyntaxError (GroupHead × Cursor) := do
  if c.rest.isEmpty then fail .groupUnclosed parenthesis
  else
    let (items, rest, pos) ← readFlags [] c.rest c.pos
    let d := Cursor.bump { c with rest, pos }
    if rest.head? == some ')' then
      if items.isEmpty then fail .repetitionMissing inner.here else .ok (.setFlags items, d)
    else .ok (.plain items, d)

/-- Reads the head of a group; the cursor is at the parenthesis. -/
def readHead (c : Cursor) : Except SyntaxError (GroupHead × Cursor) :=
  let parenthesis := c.charSpan
  let inner := c.next
  let around (n : Nat) : Except SyntaxError (GroupHead × Cursor) :=
    fail .unsupportedLookAround ⟨c.pos, (bumps n inner).pos⟩
  match inner.rest with
  | '?' :: '=' :: _ => around 2
  | '?' :: '!' :: _ => around 2
  | '?' :: '<' :: '=' :: _ => around 3
  | '?' :: '<' :: '!' :: _ => around 3
  | '?' :: 'P' :: '<' :: _ => readNamedHead (bumps 3 inner)
  | '?' :: '<' :: _ => readNamedHead (bumps 2 inner)
  | '?' :: _ => readFlagsHead parenthesis inner inner.bump
  | _ => .ok (.capture, inner)

namespace Reader

/-- The reader inside a group that begins at `parenthesis`, with the cursor behind its head. -/
def enter (r : Reader) (parenthesis : Span) (kind : GroupKind) (c : Cursor) : Reader :=
  let verbose :=
    match kind with
    | .plain items => (flagValue? .verbose true items).getD c.verbose
    | _ => c.verbose
  { r with
    cursor := { c with verbose }
    body := Body.fresh c.pos
    opened := ⟨parenthesis, kind, c.verbose, r.body⟩ :: r.opened }

/-- The reader after an opening parenthesis. -/
def openGroup (r : Reader) : Except SyntaxError Reader := do
  let c := r.cursor
  let (head, d) ← readHead c
  match head with
  | .setFlags items =>
    let verbose := (flagValue? .verbose true items).getD d.verbose
    .ok { r with
      cursor := { d with verbose }
      body := r.body.push (.flags ⟨c.pos, d.pos⟩ items) }
  | .plain items => .ok (r.enter c.charSpan (.plain items) d)
  | .capture =>
    .ok ({ r with groups := r.groups + 1 }.enter c.charSpan (.capture (r.groups + 1)) d)
  | .named name span =>
    match r.names.find? fun known => known.1 == name with
    | some known => failAgainst .groupNameDuplicate span known.2
    | none =>
      let r := { r with groups := r.groups + 1, names := (name, span) :: r.names }
      .ok (r.enter c.charSpan (.named r.groups name) d)

/-- The reader after a closing parenthesis. -/
def closeGroup (r : Reader) : Except SyntaxError Reader :=
  let c := r.cursor
  match r.opened with
  | [] => fail .groupUnopened c.charSpan
  | o :: rest =>
    let d := c.bump
    let group := Tree.group ⟨o.span.start, d.pos⟩ o.kind (r.body.tree c.pos)
    .ok { r with
      cursor := { d with verbose := o.verbose }
      body := o.outer.push group
      opened := rest }

end Reader

/-! ### Repetitions -/

/-- Reads a count, with the blanks around it; the cursor moves on also when there is none. -/
def readCount (c : Cursor) : Except SyntaxError Nat × Cursor :=
  let d := c.dropBlanks
  let (digits, e) := d.takeSpaced Char.isDigit
  let after := (e.takeSpaced isBlank).2
  let span : Span := ⟨d.pos, e.pos⟩
  if digits.isEmpty then (fail .repetitionCountDecimalEmpty span, after)
  else
    let n := digits.foldl (fun n d => n * 10 + (d.toNat - '0'.toNat)) 0
    if n < Nat.pow 2 32 then (.ok n, after) else (fail .decimalInvalid span, after)

/-- Reads the counts between braces; the cursor is at the opening brace, and ends at the
closing one. -/
def readCounts (c : Cursor) : Except SyntaxError (RepeatRange × Cursor) := do
  let unclosed {α : Type} (d : Cursor) : Except SyntaxError α :=
    fail .repetitionCountUnclosed ⟨c.pos, d.pos⟩
  let inside := c.next
  if inside.rest.isEmpty then unclosed inside
  else
    let (lo, d) := readCount inside
    if d.rest.isEmpty then unclosed d
    else
      let (range, e) ← if d.rest.head? == some ',' then do
          let e := d.next
          if e.rest.isEmpty then unclosed e
          else if e.rest.head? == some '}' then do
            let lo ← lo
            pure (RepeatRange.atLeast lo, e)
          else do
            let lo ← lo
            let (hi, f) := readCount e
            let hi ← hi
            pure (RepeatRange.between lo hi, f)
        else do
          let n ← lo
          pure (RepeatRange.exactly n, d)
      if e.rest.head? == some '}' then .ok (range, e) else unclosed e

/-- The part that a repetition repeats, and the body without it. -/
def popRepeated (b : Body) (c : Cursor) : Except SyntaxError (Tree × Body) :=
  match b.parts with
  | [] => fail .repetitionMissing c.here
  | part :: before =>
    if part.isUnrepeatable then fail .repetitionMissing c.here
    else .ok (part, { b with parts := before })

/-- The repetition of a part that ends at the cursor, where a question mark makes it lazy. -/
def repeated (part : Tree) (range : RepeatRange) (c : Cursor) : Tree × Cursor :=
  let lazy_ := c.rest.head? == some '?'
  let d := if lazy_ then c.bump else c
  (.repetition ⟨part.span.start, d.pos⟩ range (!lazy_) part, d)

namespace Reader

/-- The reader after a repetition by one character. -/
def repeatBy (r : Reader) (range : RepeatRange) : Except SyntaxError Reader := do
  let (part, body) ← popRepeated r.body r.cursor
  let (tree, d) := repeated part range r.cursor.bump
  .ok { r with cursor := d, body := body.push tree }

/-- The reader after a repetition with counts between braces. -/
def repeatCounted (r : Reader) : Except SyntaxError Reader := do
  let c := r.cursor
  let (part, body) ← popRepeated r.body c
  let (range, d) ← readCounts c
  let (tree, e) := repeated part range d.next
  match range with
  | .between lo hi =>
    if lo ≤ hi then .ok { r with cursor := e, body := body.push tree }
    else fail .repetitionCountInvalid ⟨c.pos, e.pos⟩
  | _ => .ok { r with cursor := e, body := body.push tree }

end Reader

/-! ### The pattern -/

/-- Reads an escape sequence, a dot, an anchor, or a character that stands for itself. -/
def readSingle (c : Cursor) : Except SyntaxError (Tree × Cursor) :=
  match c.rest with
  | '\\' :: _ => Escape.read c
  | '.' :: _ => .ok (.dot c.charSpan, c.bump)
  | '^' :: _ => .ok (.assertion c.charSpan .startLine, c.bump)
  | '$' :: _ => .ok (.assertion c.charSpan .endLine, c.bump)
  | ch :: _ => .ok (.literal ⟨c.charSpan, ch, false⟩, c.bump)
  | [] => .ok (.empty c.here, c)

/-- The reader after the next construct, which begins with the character `ch` at the cursor. -/
def step (r : Reader) (ch : Char) : Except SyntaxError Reader :=
  match ch with
  | '(' => r.openGroup
  | ')' => r.closeGroup
  | '|' =>
    let d := r.cursor.bump
    .ok { r with cursor := d, body := r.body.bar r.cursor.pos d.pos }
  | '[' => do
    let (tree, d) ← Bracket.read r.cursor
    .ok { r with cursor := d, body := r.body.push tree }
  | '?' => r.repeatBy .zeroOrOne
  | '*' => r.repeatBy .zeroOrMore
  | '+' => r.repeatBy .oneOrMore
  | '{' => r.repeatCounted
  | _ => do
    let (tree, d) ← readSingle r.cursor
    .ok { r with cursor := d, body := r.body.push tree }

/-- Reads the rest of a pattern; `fuel` is more than the number of characters left. -/
def loop : Nat → Reader → Except SyntaxError Reader
  | 0, r => .ok r
  | fuel + 1, r =>
    let c := r.cursor.skip
    match c.rest with
    | [] => .ok { r with cursor := c }
    | ch :: _ => do
      let r ← step { r with cursor := c } ch
      loop fuel r

/-- The tree that was read, at the end of the pattern. -/
def finish (r : Reader) : Except SyntaxError Tree :=
  match r.opened with
  | [] => .ok (r.body.tree r.cursor.pos)
  | o :: _ => fail .groupUnclosed o.span

/-- Reads a pattern. -/
def parse (pattern : List Char) : Except SyntaxError Tree := do
  let c := Cursor.ofPattern pattern
  let r ← loop (pattern.length + 1) ⟨c, 0, [], Body.fresh c.pos, []⟩
  let tree ← finish r
  match tree.tooDeep nestLimit with
  | some span => fail .nestLimitExceeded span
  | none => .ok tree

end Tree
end Regex
end StreamEditor
