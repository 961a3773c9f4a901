/-
# Programs that match

An expression is compiled into a list of instructions. An instruction reads a character or a
byte, checks a condition, notes the place for a group, or splits into two ways to go on, the
preferred one first. Code is laid out from the end of the pattern to its start, so that every
instruction knows the one after it when it is emitted; only a loop is closed afterwards.

Key definitions: `Regex.Inst`, `Regex.Program`, `Regex.Code.emit`, `Regex.Program.ofExpr`.
-/
import StreamEditor.Regex.Expr

namespace StreamEditor
namespace Regex

/-- An instruction; numbers of type `Nat` at the end are the instructions that follow it. -/
inductive Inst where
  | accept
  | char (set : CodeSet) (next : Nat)
  | byte (set : CodeSet) (next : Nat)
  | look (l : Look) (next : Nat)
  | save (slot : Nat) (next : Nat)
  | split (first second : Nat)
  deriving Repr, Inhabited

/-- A program: its instructions and the one it begins at. -/
structure Program where
  insts : Array Inst
  entry : Nat
  deriving Repr, Inhabited

/-- Instructions laid out so far. -/
abbrev Code := Array Inst

namespace Code

/-- A way to lay out code that goes on at `next`: the entry of that code, and all code. -/
abbrev Layout := Nat → Code → Nat × Code

/-- Adds an instruction; its number is its entry. -/
def add (inst : Inst) (code : Code) : Nat × Code :=
  (code.size, code.push inst)

/-- A split that prefers `into` if greedy and `past` if not. -/
def branch (greedy : Bool) (into past : Nat) : Inst :=
  if greedy then .split into past else .split past into

/-- `n` copies of a layout, one after the other. -/
def copies (body : Layout) : Nat → Layout
  | 0, next, code => (next, code)
  | n + 1, next, code =>
    let (entry, code) := body next code
    copies body n entry code

/-- Up to `n` copies of a layout, each of which may leave for `exit` instead. -/
def optionals (body : Layout) (greedy : Bool) (exit : Nat) : Nat → Layout
  | 0, next, code => (next, code)
  | n + 1, next, code =>
    let (entry, code) := body next code
    let (entry, code) := code.add (branch greedy entry exit)
    optionals body greedy exit n entry code

/-- At least one round of a layout; the split after a round goes back or on. -/
def atLeastOne (body : Layout) (greedy : Bool) : Layout := fun next code =>
  let (loop, code) := code.add .accept
  let (entry, code) := body loop code
  (entry, code.set! loop (branch greedy entry next))

/-- Any number of rounds of a layout that cannot match empty text. -/
def anyNumber (body : Layout) (greedy : Bool) : Layout := fun next code =>
  let (loop, code) := code.add .accept
  let (entry, code) := body loop code
  (loop, code.set! loop (branch greedy entry next))

/-- Rounds of a layout without an upper bound. Empty rounds would disturb the order of
preference at a split that serves as entry and loop, so there the entry is a split of its own. -/
def unbounded (body : Layout) (greedy canBeEmpty : Bool) : Nat → Layout
  | 0, next, code =>
    if canBeEmpty then
      let (entry, code) := atLeastOne body greedy next code
      code.add (branch greedy entry next)
    else anyNumber body greedy next code
  | n + 1, next, code =>
    let (entry, code) := atLeastOne body greedy next code
    copies body n entry code

/-- Lays out an expression that goes on at `next`. -/
def emit : Expr → Layout
  | .empty, next, code => (next, code)
  | .chars set, next, code => code.add (.char set next)
  | .bytes set, next, code => code.add (.byte set next)
  | .look l, next, code => code.add (.look l next)
  | .seq a b, next, code =>
    let (middle, code) := emit b next code
    emit a middle code
  | .alt a b, next, code =>
    let (first, code) := emit a next code
    let (second, code) := emit b next code
    code.add (.split first second)
  | .rounds lo hi greedy sub, next, code =>
    match hi with
    | none => unbounded (emit sub) greedy (sub.minSize == 0) lo next code
    | some hi =>
      let (entry, code) := optionals (emit sub) greedy next (hi - lo) next code
      copies (emit sub) lo entry code
  | .group index sub, next, code =>
    let (close, code) := code.add (.save (2 * index + 1) next)
    let (inside, code) := emit sub close code
    code.add (.save (2 * index) inside)

end Code

namespace Program

/-- The program of an expression. -/
def ofExpr (e : Expr) : Program :=
  let (accept, code) := Code.add .accept #[]
  let (entry, code) := Code.emit e accept code
  ⟨code, entry⟩

end Program
end Regex
end StreamEditor
