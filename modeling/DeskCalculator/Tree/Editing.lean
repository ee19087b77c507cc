import DeskCalculator.Tree.Basic

/-! Changes of a tree. The editable leaf is found by going right wherever there is a right child and
left otherwise, down to the first blank or operand node. Grafting puts a tree into the first free
place of the root, and replaces a root that has none. -/

namespace DeskCalculator.Tree

/-- No leaf is found under an operator without children. -/
def editablePath? : Tree → Option Path
  | absent => none
  | node content left right =>
    if content.isLeaf then some []
    else if right.isPresent then right.editablePath?.map (.right :: ·)
    else left.editablePath?.map (.left :: ·)

def editableLeaf? (tree : Tree) : Option Tree :=
  tree.editablePath?.map (tree.subtree ·)

def setValue (value : Option Float) : Tree → Tree
  | absent => absent
  | node content left right =>
    if content.isLeaf then node (.operand value) left right else node content left right

def editLeaf (value : Option Float) : Tree → Tree
  | absent => absent
  | node content left right =>
    if content.isLeaf then node (.operand value) left right
    else if right.isPresent then node content left (right.editLeaf value)
    else node content (left.editLeaf value) right

def graft (tree incoming : Tree) : Tree :=
  match tree with
  | absent => incoming
  | node content left right =>
    if 1 ≤ content.arity ∧ ¬ left.isPresent then node content incoming right
    else if 2 ≤ content.arity ∧ ¬ right.isPresent then node content left incoming
    else incoming

/-- Makes a blank node an operator; any other node is kept and nothing is answered. -/
def graftOperator? (op : Operator) : Tree → Option Tree
  | node .blank left right => some (node (.operator op) left right)
  | _ => none

end DeskCalculator.Tree
