/-
# From a pattern as written to what it matches

The flags of a pattern are applied from left to right: a flag set inside a group holds to the
end of the group, through the branches that follow. Under the Unicode flag classes are sets of
characters, without it sets of bytes, and then a class cannot hold what only Unicode names.

Key definitions: `Regex.Flags`, `Regex.ClassSet.codes`, `Regex.Tree.meaning`.
-/
import StreamEditor.Regex.Expr
import StreamEditor.Regex.SyntaxError
import StreamEditor.Unicode.CaseFolding
import StreamEditor.Unicode.Property

namespace StreamEditor
namespace Regex

open Unicode

/-! ### Flags -/

/-- The flags that decide what a pattern means. -/
structure Flags where
  ignoreCase : Bool
  multiLine : Bool
  dotAll : Bool
  swapGreed : Bool
  unicode : Bool
  crlf : Bool
  deriving DecidableEq, Repr

namespace Flags

/-- The flags a pattern begins with. -/
def initial (ignoreCase : Bool) : Flags :=
  ⟨ignoreCase, false, false, false, true, false⟩

/-- The flags after one is set; reading in verbose mode has no bearing on the meaning. -/
def set (fs : Flags) (f : Flag) (on : Bool) : Flags :=
  match f with
  | .ignoreCase => { fs with ignoreCase := on }
  | .multiLine => { fs with multiLine := on }
  | .dotAll => { fs with dotAll := on }
  | .swapGreed => { fs with swapGreed := on }
  | .unicode => { fs with unicode := on }
  | .crlf => { fs with crlf := on }
  | .verbose => fs

/-- The flags after a list of items. -/
def apply : Bool → Flags → List FlagItem → Flags
  | _, fs, [] => fs
  | _, fs, .negation :: rest => apply false fs rest
  | on, fs, .flag f :: rest => apply on (fs.set f on) rest

/-- The kind of words the flags mean. -/
def words (fs : Flags) : WordKind :=
  if fs.unicode then .unicode else .ascii

/-- The highest code in a class. -/
def lastCode (fs : Flags) : Nat :=
  if fs.unicode then 0x10FFFF else 0xFF

end Flags

/-! ### Classes -/

/-- The members of a named ASCII class. -/
def AsciiClass.codes : AsciiClass → CodeSet
  | .alnum => ⟨[⟨48, 57⟩, ⟨65, 90⟩, ⟨97, 122⟩]⟩
  | .alpha => ⟨[⟨65, 90⟩, ⟨97, 122⟩]⟩
  | .ascii => ⟨[⟨0, 127⟩]⟩
  | .blank => ⟨[⟨9, 9⟩, ⟨32, 32⟩]⟩
  | .cntrl => ⟨[⟨0, 31⟩, ⟨127, 127⟩]⟩
  | .digit => ⟨[⟨48, 57⟩]⟩
  | .graph => ⟨[⟨33, 126⟩]⟩
  | .lower => ⟨[⟨97, 122⟩]⟩
  | .print => ⟨[⟨32, 126⟩]⟩
  | .punct => ⟨[⟨33, 47⟩, ⟨58, 64⟩, ⟨91, 96⟩, ⟨123, 126⟩]⟩
  | .space => ⟨[⟨9, 13⟩, ⟨32, 32⟩]⟩
  | .upper => ⟨[⟨65, 90⟩]⟩
  | .word => ⟨[⟨48, 57⟩, ⟨65, 90⟩, ⟨95, 95⟩, ⟨97, 122⟩]⟩
  | .xdigit => ⟨[⟨48, 57⟩, ⟨65, 70⟩, ⟨97, 102⟩]⟩

/-- The members of a class named by one letter, under Unicode. -/
def ShortClass.codes : ShortClass → CodeSet
  | .digit => Property.digit
  | .space => Property.space
  | .word => Property.word

/-- The members of a class named by one letter, in ASCII. -/
def ShortClass.asciiCodes : ShortClass → CodeSet
  | .digit => AsciiClass.digit.codes
  | .space => AsciiClass.space.codes
  | .word => AsciiClass.word.codes

/-- The other case of an ASCII letter. -/
def asciiOther? (c : Nat) : Option Nat :=
  if 65 ≤ c ∧ c ≤ 90 then some (c + 32) else if 97 ≤ c ∧ c ≤ 122 then some (c - 32) else none

/-- A set of bytes with both cases of its ASCII letters. -/
def asciiClose (s : CodeSet) : CodeSet :=
  let letters := (List.range 128).filter s.mem
  s.union (CodeSet.ofList (letters.filterMap asciiOther?))

namespace Flags

/-- A set with the other cases of its members, if the flags ignore case. -/
def folded (fs : Flags) (s : CodeSet) : CodeSet :=
  if fs.ignoreCase then (if fs.unicode then CaseFolding.close s else asciiClose s) else s

/-- The complement of a set, if it is negated. -/
def negatedIf (fs : Flags) (negated : Bool) (s : CodeSet) : CodeSet :=
  if negated then s.compl fs.lastCode else s

end Flags

/-- A fault of meaning at a span. -/
def faultAt {α : Type} (fault : Fault) (span : Span) : Except SyntaxError α :=
  .error ⟨fault, span, none⟩

/-- The set that a Unicode class names. -/
def UnicodeClass.codes (fs : Flags) (u : UnicodeClass) : Except SyntaxError CodeSet :=
  if !fs.unicode then faultAt .unicodeNotAllowed u.span
  else
    let found :=
      match u.name with
      | .name name => Property.ofName name
      | .valued _ name value => Property.ofValue name value
    match found with
    | .ok s => .ok (fs.negatedIf u.isNegated (fs.folded s))
    | .error .noProperty => faultAt .unicodePropertyNotFound u.span
    | .error .noValue => faultAt .unicodePropertyValueNotFound u.span

/-- The set that a class named by one letter stands for. -/
def Flags.short (fs : Flags) (kind : ShortClass) (negated : Bool) : CodeSet :=
  fs.negatedIf negated (if fs.unicode then kind.codes else kind.asciiCodes)

/-- The byte that a character written in a pattern means, without Unicode. -/
def Literal.byte? (l : Literal) : Option Nat :=
  if l.asByte || decide (l.char.toNat < 128) then some l.char.toNat else none

/-- The code that a character in a class means: without Unicode it has to be a byte. -/
def Literal.classCode (fs : Flags) (l : Literal) : Except SyntaxError Nat :=
  if fs.unicode then .ok l.char.toNat
  else
    match l.byte? with
    | some b => .ok b
    | none => faultAt .unicodeNotAllowed l.span

mutual

/-- The members of a part of a bracketed class. Case is folded before a complement is taken
and before an operator is applied. -/
def ClassSet.codes (fs : Flags) : ClassSet → Except SyntaxError CodeSet
  | .literal l => do
    let c ← l.classCode fs
    .ok (CodeSet.single c)
  | .range _ lo hi => do
    let a ← lo.classCode fs
    let b ← hi.classCode fs
    .ok (CodeSet.ofIntervals [⟨a, b⟩])
  | .ascii _ kind negated => .ok (fs.negatedIf negated (fs.folded kind.codes))
  | .short _ kind negated => .ok (fs.short kind negated)
  | .unicode u => u.codes fs
  | .bracketed _ negated set => do
    let s ← ClassSet.codes fs set
    .ok (fs.negatedIf negated (fs.folded s))
  | .union _ items => ClassSet.unionCodes fs items
  | .combined _ op lhs rhs => do
    let a ← ClassSet.codes fs lhs
    let b ← ClassSet.codes fs rhs
    let a := fs.folded a
    let b := fs.folded b
    match op with
    | .intersection => .ok (a.inter b)
    | .difference => .ok (a.diff b)
    | .symmetricDifference => .ok (a.symmDiff b)

/-- The members of any of several parts. -/
def ClassSet.unionCodes (fs : Flags) : List ClassSet → Except SyntaxError CodeSet
  | [] => .ok CodeSet.empty
  | item :: items => do
    let s ← ClassSet.codes fs item
    let t ← ClassSet.unionCodes fs items
    .ok (s.union t)

end

/-! ### Trees -/

/-- A set as an expression: of characters under Unicode, of bytes without. -/
def Flags.oneOf (fs : Flags) (s : CodeSet) : Expr :=
  if fs.unicode then .chars s else .bytes s

/-- A character that stands for itself. -/
def Literal.meaning (fs : Flags) (l : Literal) : Expr :=
  let c := l.char.toNat
  if !fs.unicode && l.asByte && decide (128 ≤ c) then .bytes (CodeSet.single c)
  else if !fs.ignoreCase then .chars (CodeSet.single c)
  else if fs.unicode then
    match CaseFolding.orbit? c with
    | some orbit => .chars (CodeSet.ofList orbit)
    | none => .chars (CodeSet.single c)
  else
    match asciiOther? c with
    | some other => .bytes (CodeSet.ofList [c, other])
    | none => .chars (CodeSet.single c)

/-- The dot: any character or byte but the end of a line, unless the flags allow this too. -/
def Flags.dot (fs : Flags) : Expr :=
  let outside :=
    if fs.dotAll then CodeSet.empty
    else if fs.crlf then CodeSet.ofList [10, 13]
    else CodeSet.single 10
  fs.oneOf (outside.compl fs.lastCode)

/-- An assertion as a condition on a place. -/
def Assertion.look (fs : Flags) : Assertion → Look
  | .startLine =>
    if fs.multiLine then (if fs.crlf then .lineStartCrlf else .lineStart) else .textStart
  | .endLine => if fs.multiLine then (if fs.crlf then .lineEndCrlf else .lineEnd) else .textEnd
  | .startText => .textStart
  | .endText => .textEnd
  | .wordBoundary => .wordBoundary fs.words
  | .notWordBoundary => .notWordBoundary fs.words
  | .wordStart => .wordStart fs.words
  | .wordEnd => .wordEnd fs.words
  | .wordStartHalf => .wordStartHalf fs.words
  | .wordEndHalf => .wordEndHalf fs.words

/-- The least and greatest number of rounds. -/
def RepeatRange.bounds : RepeatRange → Nat × Option Nat
  | .zeroOrOne => (0, some 1)
  | .zeroOrMore => (0, none)
  | .oneOrMore => (1, none)
  | .exactly n => (n, some n)
  | .atLeast n => (n, none)
  | .between lo hi => (lo, some hi)

/-- The flags inside a group. -/
def GroupKind.flags (fs : Flags) : GroupKind → Flags
  | .plain items => Flags.apply true fs items
  | _ => fs

/-- A group as an expression, numbered if it captures. -/
def GroupKind.around (e : Expr) : GroupKind → Expr
  | .plain _ => e
  | .capture index => .group index e
  | .named index _ => .group index e

/-- Two expressions in sequence, where empty text is left out. -/
def Expr.andThen : Expr → Expr → Expr
  | .empty, e => e
  | e, .empty => e
  | a, b => .seq a b

mutual

/-- What a tree matches under the flags, and the flags after it. -/
def Tree.meaning (fs : Flags) : Tree → Except SyntaxError (Expr × Flags)
  | .empty _ => .ok (.empty, fs)
  | .flags _ items => .ok (.empty, Flags.apply true fs items)
  | .literal l => .ok (l.meaning fs, fs)
  | .dot _ => .ok (fs.dot, fs)
  | .assertion _ kind => .ok (.look (kind.look fs), fs)
  | .short _ kind negated => .ok (fs.oneOf (fs.short kind negated), fs)
  | .unicode u => do
    let s ← u.codes fs
    .ok (.chars s, fs)
  | .bracketed _ negated set => do
    let s ← set.codes fs
    .ok (fs.oneOf (fs.negatedIf negated (fs.folded s)), fs)
  | .repetition _ range greedy sub => do
    let (e, fs) ← Tree.meaning fs sub
    let (lo, hi) := range.bounds
    .ok (Expr.repeating lo hi (greedy != fs.swapGreed) e, fs)
  | .group _ kind sub => do
    let (e, _) ← Tree.meaning (kind.flags fs) sub
    .ok (kind.around e, fs)
  | .alternation _ branches => Tree.choiceMeaning fs branches
  | .concat _ parts => Tree.sequenceMeaning fs parts

/-- What several trees match one after the other. -/
def Tree.sequenceMeaning (fs : Flags) : List Tree → Except SyntaxError (Expr × Flags)
  | [] => .ok (.empty, fs)
  | tree :: trees => do
    let (e, fs) ← Tree.meaning fs tree
    let (rest, fs) ← Tree.sequenceMeaning fs trees
    .ok (e.andThen rest, fs)

/-- What any of several trees matches, the earlier ones preferred. -/
def Tree.choiceMeaning (fs : Flags) : List Tree → Except SyntaxError (Expr × Flags)
  | [] => .ok (.empty, fs)
  | [tree] => Tree.meaning fs tree
  | tree :: trees => do
    let (e, fs) ← Tree.meaning fs tree
    let (rest, fs) ← Tree.choiceMeaning fs trees
    .ok (.alt e rest, fs)

end

mutual

/-- The names of the groups of a tree with their numbers. -/
def Tree.groupNames : Tree → List (String × Nat)
  | .group _ (.named index name) sub => (name, index) :: Tree.groupNames sub
  | .group _ _ sub => Tree.groupNames sub
  | .repetition _ _ _ sub => Tree.groupNames sub
  | .alternation _ branches => Tree.allGroupNames branches
  | .concat _ parts => Tree.allGroupNames parts
  | _ => []

/-- The names of the groups of several trees with their numbers. -/
def Tree.allGroupNames : List Tree → List (String × Nat)
  | [] => []
  | tree :: trees => Tree.groupNames tree ++ Tree.allGroupNames trees

end

end Regex
end StreamEditor
