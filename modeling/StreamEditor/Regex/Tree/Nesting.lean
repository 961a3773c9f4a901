/-
# How deep a pattern nests

Groups, repetitions, brackets, unions and operators of classes, sequences and alternations each
add a level to what stands in them. The depth of a pattern is bounded; the module finds the
first node, from left to right and outside in, that lies too deep.

Key definitions: `Regex.ClassSet.tooDeep`, `Regex.Tree.tooDeep`.
-/
import StreamEditor.Regex.Tree

namespace StreamEditor
namespace Regex

mutual

/-- The span of the first part of a class that lies too deep, where `room` levels are left. -/
def ClassSet.tooDeep : Nat → ClassSet → Option Span
  | 0, .bracketed s _ _ => some s
  | room + 1, .bracketed _ _ set => ClassSet.tooDeep room set
  | _, .union _ [] => none
  | 0, .union s (_ :: _) => some s
  | room + 1, .union _ (item :: items) =>
    (ClassSet.tooDeep room item).or (ClassSet.anyTooDeep room items)
  | 0, .combined s _ _ _ => some s
  | room + 1, .combined _ _ lhs rhs =>
    (ClassSet.tooDeep room lhs).or (ClassSet.tooDeep room rhs)
  | _, _ => none

/-- The span of the first part of several items that lies too deep. -/
def ClassSet.anyTooDeep : Nat → List ClassSet → Option Span
  | _, [] => none
  | room, item :: items => (ClassSet.tooDeep room item).or (ClassSet.anyTooDeep room items)

end

mutual

/-- The span of the first part of a tree that lies too deep, where `room` levels are left. -/
def Tree.tooDeep : Nat → Tree → Option Span
  | 0, .bracketed s _ _ => some s
  | room + 1, .bracketed _ _ set => set.tooDeep room
  | 0, .repetition s _ _ _ => some s
  | room + 1, .repetition _ _ _ sub => Tree.tooDeep room sub
  | 0, .group s _ _ => some s
  | room + 1, .group _ _ sub => Tree.tooDeep room sub
  | 0, .alternation s _ => some s
  | room + 1, .alternation _ branches => Tree.anyTooDeep room branches
  | 0, .concat s _ => some s
  | room + 1, .concat _ parts => Tree.anyTooDeep room parts
  | _, _ => none

/-- The span of the first part of several trees that lies too deep. -/
def Tree.anyTooDeep : Nat → List Tree → Option Span
  | _, [] => none
  | room, tree :: trees => (Tree.tooDeep room tree).or (Tree.anyTooDeep room trees)

end

end Regex
end StreamEditor
