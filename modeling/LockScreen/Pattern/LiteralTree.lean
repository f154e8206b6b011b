namespace LockScreen.Pattern

/-- A place in the tree: groups of ways down, the group of the last open one apart. -/
inductive LiteralTree where
  | node (closed : List (List (UInt8 × LiteralTree))) (current : List (UInt8 × LiteralTree))

namespace LiteralTree

def leaf : LiteralTree := .node [] []

def hasWay : LiteralTree → Bool
  | .node closed current => !current.isEmpty || closed.any (!·.isEmpty)

def close : LiteralTree → LiteralTree
  | .node closed current =>
    if !closed.isEmpty && !hasWay (.node closed current) then .node closed current
    else .node (closed ++ [current]) []

def change (byte : UInt8) (f : LiteralTree → LiteralTree) :
    List (UInt8 × LiteralTree) → List (UInt8 × LiteralTree)
  | [] => [(byte, f leaf)]
  | (next, below) :: rest =>
    if byte < next then (byte, f leaf) :: (next, below) :: rest
    else if byte = next then (next, f below) :: rest
    else (next, below) :: change byte f rest

def insert : List UInt8 → LiteralTree → LiteralTree
  | [], tree => tree.close
  | byte :: rest, .node closed current => .node closed (change byte (insert rest) current)

def ofTexts (texts : List (List UInt8)) : LiteralTree :=
  texts.foldl (fun tree text => insert text tree) leaf

end LiteralTree

end LockScreen.Pattern
