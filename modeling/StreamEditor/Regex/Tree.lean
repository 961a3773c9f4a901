/-
# Patterns as trees

The tree of a pattern as it was written: every node knows the span of the text it came from,
so that a fault found later can still be pointed at. Nothing is interpreted here; flags stand
where they were written and classes keep their items.

Key definitions: `Regex.Position`, `Regex.Span`, `Regex.ClassSet`, `Regex.Tree`.
-/
namespace StreamEditor
namespace Regex

/-- A place between two characters of a pattern: how many characters stand before it, and its
line and column, both counted from 1. -/
structure Position where
  offset : Nat
  line : Nat
  column : Nat
  deriving DecidableEq, Repr, Inhabited

namespace Position

/-- The place before the first character. -/
def start : Position := ⟨0, 1, 1⟩

/-- The place after the character `c` that stands here. -/
def after (p : Position) (c : Char) : Position :=
  if c == '\n' then ⟨p.offset + 1, p.line + 1, 1⟩ else ⟨p.offset + 1, p.line, p.column + 1⟩

end Position

/-- A stretch of a pattern. -/
structure Span where
  start : Position
  stop : Position
  deriving DecidableEq, Repr, Inhabited

/-- The flags that a pattern can switch. -/
inductive Flag where
  | ignoreCase
  | multiLine
  | dotAll
  | swapGreed
  | unicode
  | crlf
  | verbose
  deriving DecidableEq, Repr

namespace Flag

/-- The flag behind its letter. -/
def ofChar? : Char → Option Flag
  | 'i' => some .ignoreCase
  | 'm' => some .multiLine
  | 's' => some .dotAll
  | 'U' => some .swapGreed
  | 'u' => some .unicode
  | 'R' => some .crlf
  | 'x' => some .verbose
  | _ => none

end Flag

/-- An item in a list of flags: a flag, or the hyphen that turns off the flags after it. -/
inductive FlagItem where
  | negation
  | flag (f : Flag)
  deriving DecidableEq, Repr

/-- The value that a list of flags gives to one flag, if it names it. -/
def flagValue? (f : Flag) : Bool → List FlagItem → Option Bool
  | _, [] => none
  | _, .negation :: rest => flagValue? f false rest
  | on, .flag g :: rest => if g == f then some on else flagValue? f on rest

/-- A character of a pattern that stands for itself. A character written as `\x` with two
digits can mean a byte. -/
structure Literal where
  span : Span
  char : Char
  asByte : Bool
  deriving DecidableEq, Repr

/-- The assertions about the place between two characters. -/
inductive Assertion where
  | startLine
  | endLine
  | startText
  | endText
  | wordBoundary
  | notWordBoundary
  | wordStart
  | wordEnd
  | wordStartHalf
  | wordEndHalf
  deriving DecidableEq, Repr

/-- The classes named by one letter: `\d`, `\s` and `\w`. -/
inductive ShortClass where
  | digit
  | space
  | word
  deriving DecidableEq, Repr

/-- The classes named as in `[:alpha:]`. -/
inductive AsciiClass where
  | alnum
  | alpha
  | ascii
  | blank
  | cntrl
  | digit
  | graph
  | lower
  | print
  | punct
  | space
  | upper
  | word
  | xdigit
  deriving DecidableEq, Repr

namespace AsciiClass

/-- The class behind its name. -/
def ofName? : List Char → Option AsciiClass
  | ['a', 'l', 'n', 'u', 'm'] => some .alnum
  | ['a', 'l', 'p', 'h', 'a'] => some .alpha
  | ['a', 's', 'c', 'i', 'i'] => some .ascii
  | ['b', 'l', 'a', 'n', 'k'] => some .blank
  | ['c', 'n', 't', 'r', 'l'] => some .cntrl
  | ['d', 'i', 'g', 'i', 't'] => some .digit
  | ['g', 'r', 'a', 'p', 'h'] => some .graph
  | ['l', 'o', 'w', 'e', 'r'] => some .lower
  | ['p', 'r', 'i', 'n', 't'] => some .print
  | ['p', 'u', 'n', 'c', 't'] => some .punct
  | ['s', 'p', 'a', 'c', 'e'] => some .space
  | ['u', 'p', 'p', 'e', 'r'] => some .upper
  | ['w', 'o', 'r', 'd'] => some .word
  | ['x', 'd', 'i', 'g', 'i', 't'] => some .xdigit
  | _ => none

end AsciiClass

/-- What a Unicode class is named by. -/
inductive ClassName where
  | name (name : String)
  | valued (differs : Bool) (name value : String)
  deriving DecidableEq, Repr

/-- A Unicode class such as `\pL` or `\P{Greek}`. -/
structure UnicodeClass where
  span : Span
  negated : Bool
  name : ClassName
  deriving DecidableEq, Repr

/-- Whether the class means the characters outside the named set. -/
def UnicodeClass.isNegated (u : UnicodeClass) : Bool :=
  match u.name with
  | .valued true _ _ => !u.negated
  | _ => u.negated

/-- The operations between the parts of a bracketed class. -/
inductive ClassOp where
  | intersection
  | difference
  | symmetricDifference
  deriving DecidableEq, Repr

/-- What stands between the brackets of a class. -/
inductive ClassSet where
  | literal (l : Literal)
  | range (span : Span) (lo hi : Literal)
  | ascii (span : Span) (kind : AsciiClass) (negated : Bool)
  | short (span : Span) (kind : ShortClass) (negated : Bool)
  | unicode (u : UnicodeClass)
  | bracketed (span : Span) (negated : Bool) (set : ClassSet)
  | union (span : Span) (items : List ClassSet)
  | combined (span : Span) (op : ClassOp) (lhs rhs : ClassSet)
  deriving Repr

/-- The span of a part of a class. -/
def ClassSet.span : ClassSet → Span
  | .literal l => l.span
  | .range s _ _ => s
  | .ascii s _ _ => s
  | .short s _ _ => s
  | .unicode u => u.span
  | .bracketed s _ _ => s
  | .union s _ => s
  | .combined s _ _ _ => s

/-- How often a repetition repeats. -/
inductive RepeatRange where
  | zeroOrOne
  | zeroOrMore
  | oneOrMore
  | exactly (n : Nat)
  | atLeast (n : Nat)
  | between (lo hi : Nat)
  deriving DecidableEq, Repr

/-- What a group does besides grouping. -/
inductive GroupKind where
  | capture (index : Nat)
  | named (index : Nat) (name : String)
  | plain (flags : List FlagItem)
  deriving DecidableEq, Repr

/-- A pattern as it was written. -/
inductive Tree where
  | empty (span : Span)
  | flags (span : Span) (items : List FlagItem)
  | literal (l : Literal)
  | dot (span : Span)
  | assertion (span : Span) (kind : Assertion)
  | short (span : Span) (kind : ShortClass) (negated : Bool)
  | unicode (u : UnicodeClass)
  | bracketed (span : Span) (negated : Bool) (set : ClassSet)
  | repetition (span : Span) (range : RepeatRange) (greedy : Bool) (sub : Tree)
  | group (span : Span) (kind : GroupKind) (sub : Tree)
  | alternation (span : Span) (branches : List Tree)
  | concat (span : Span) (parts : List Tree)
  deriving Repr

namespace Tree

/-- The span of a tree. -/
def span : Tree → Span
  | .empty s => s
  | .flags s _ => s
  | .literal l => l.span
  | .dot s => s
  | .assertion s _ => s
  | .short s _ _ => s
  | .unicode u => u.span
  | .bracketed s _ _ => s
  | .repetition s _ _ _ => s
  | .group s _ _ => s
  | .alternation s _ => s
  | .concat s _ => s

/-- Whether a repetition may not apply to the tree: there is nothing in it to repeat. -/
def isUnrepeatable : Tree → Bool
  | .empty _ => true
  | .flags _ _ => true
  | _ => false

end Tree
end Regex
end StreamEditor
