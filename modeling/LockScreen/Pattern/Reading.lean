import LockScreen.Pattern.Bracket
import LockScreen.Pattern.Group
import LockScreen.Pattern.Repetition

namespace LockScreen.Pattern

open Reader

namespace Tree

def sequenceOf (span : Span) : List Tree → Tree
  | [] => .empty span
  | [part] => part
  | parts => .sequence span parts.reverse

def alternationOf (span : Span) (branch : Tree) : List Tree → Tree
  | [] => branch
  | others => .alternation span (branch :: others).reverse

def isSpacious (before : Bool) (settings : FlagSettings) : Bool :=
  (settings.lookup .spacious).getD before

def setSpacious (spacious : Bool) : Reader Unit :=
  modify fun cursor => { cursor with spacious }

def single (c : Char) : Reader Tree := do
  let span ← nextSpan
  match c with
  | '\\' => return (← Escape.read).tree
  | '.' =>
    step
    return .dot span
  | '^' =>
    step
    return .assertion span .lineStart
  | '$' =>
    step
    return .assertion span .lineEnd
  | c =>
    step
    return .literal ⟨c, span, false⟩

/-- Reads to the end of the pattern, or of the group. The parts read last come first; `first` is
where the first branch starts, and `start` where the present one does. -/
def readOn (inGroup : Bool) (first : Place) : Nat → (branches : List Tree) → (start : Place) →
    (parts : List Tree) → Reader Tree
  | 0, _, _, _ => return .empty (← here)
  | fuel + 1, branches, start, parts => do
    skip
    let continued (parts : List Tree) : Reader Tree := readOn inGroup first fuel branches start parts
    match ← next? with
    | none => return alternationOf (← since first) (sequenceOf (← since start) parts) branches
    | some ')' =>
      if !inGroup then refuse .unopenedGroup (← nextSpan)
      return alternationOf (← since first) (sequenceOf (← since start) parts) branches
    | some '|' =>
      let branch := sequenceOf (← since start) parts
      step
      readOn inGroup first fuel (branch :: branches) (← place) []
    | some '(' =>
      let outside := (← get).spacious
      match ← Group.opening with
      | .flags span settings =>
        setSpacious (isSpacious outside settings)
        continued (.flags span settings :: parts)
      | .group span settings =>
        setSpacious (isSpacious outside (settings.getD []))
        let inside ← place
        let content ← readOn true inside fuel [] inside []
        if (← next?).isNone then refuse .unclosedGroup span
        setSpacious outside
        step
        continued (.group (← since span.start) settings content :: parts)
    | some '[' =>
      match ← Bracket.read (fuel + 1) with
      | .bracketed span negated inside => continued (.bracketed span negated inside :: parts)
      | other => continued (.bracketed other.span false other :: parts)
    | some '?' => continued (← Repetition.byRange 0 (some 1) parts)
    | some '*' => continued (← Repetition.byRange 0 none parts)
    | some '+' => continued (← Repetition.byRange 1 none parts)
    | some '{' => continued (← Repetition.counted parts)
    | some c => continued ((← single c) :: parts)

end Tree

def deeper (depth : Nat) (span : Span) : Except Fault Nat :=
  if depth < depthLimit then .ok (depth + 1) else .error ⟨.tooDeep, span, none⟩

mutual

def ClassTree.checkDepth (depth : Nat) : ClassTree → Except Fault Unit
  | .bracketed span _ inside => do inside.checkDepth (← deeper depth span)
  | .union span items => do ClassTree.checkDepths (← deeper depth span) items
  | .operation span _ left right => do
    let depth ← deeper depth span
    left.checkDepth depth
    right.checkDepth depth
  | _ => return ()

def ClassTree.checkDepths (depth : Nat) : List ClassTree → Except Fault Unit
  | [] => return ()
  | item :: rest => do
    item.checkDepth depth
    ClassTree.checkDepths depth rest

end

mutual

/-- The first part that nests too deep is a fault. -/
def Tree.checkDepth (depth : Nat) : Tree → Except Fault Unit
  | .bracketed span _ inside => do inside.checkDepth (← deeper depth span)
  | .repetition span _ _ _ inside | .group span _ inside => do
    inside.checkDepth (← deeper depth span)
  | .sequence span parts | .alternation span parts => do
    Tree.checkDepths (← deeper depth span) parts
  | _ => return ()

def Tree.checkDepths (depth : Nat) : List Tree → Except Fault Unit
  | [] => return ()
  | part :: rest => do
    part.checkDepth depth
    Tree.checkDepths depth rest

end

def Tree.ofPattern (pattern : List Char) : Except Fault Tree := do
  let (tree, _) ← (Tree.readOn false .first (pattern.length + 1) [] .first []).run (.new pattern)
  tree.checkDepth 0
  return tree

end LockScreen.Pattern
