import DeskCalculator.Operator.Basic

/-! Expression trees that grow key by key. A node is blank, or holds an operand that may still lack its
value, or an operator; every node has two child places, and a place without a node is `absent`. An
operator uses as many of its places as its arity, from the left. -/

namespace DeskCalculator

inductive Content where
  | blank
  | operand (value : Option Float)
  | operator (op : Operator)

inductive Tree where
  | absent
  | node (content : Content) (left right : Tree)

namespace Content

def isLeaf : Content → Bool
  | blank => true
  | operand _ => true
  | operator _ => false

def arity : Content → Nat
  | blank => 0
  | operand _ => 0
  | operator op => op.arity

end Content

namespace Tree

def blank : Tree :=
  node .blank absent absent

def operand (value : Option Float) : Tree :=
  node (.operand value) absent absent

def bare (op : Operator) : Tree :=
  node (.operator op) absent absent

def isPresent : Tree → Bool
  | absent => false
  | node _ _ _ => true

def isLeaf : Tree → Bool
  | absent => false
  | node content _ _ => content.isLeaf

def isBlank : Tree → Bool
  | node .blank _ _ => true
  | _ => false

/-- Whether the root has all the nodes it needs; what they hold is not looked at. -/
def isComplete : Tree → Bool
  | absent => false
  | node .blank _ _ => false
  | node (.operand _) _ _ => true
  | node (.operator (.unary _ _)) left _ => left.isPresent
  | node (.operator (.binary _ _)) left right => left.isPresent && right.isPresent

inductive Side where
  | left
  | right
deriving DecidableEq, Repr

abbrev Path := List Side

/-- The tree at a path, absent where the path leaves the tree. -/
def subtree : Path → Tree → Tree
  | _, absent => absent
  | [], tree => tree
  | .left :: path, node _ left _ => subtree path left
  | .right :: path, node _ _ right => subtree path right

/-- Replaces the tree at a path; a path that leaves the tree changes nothing. -/
def modifyAt (change : Tree → Tree) : Path → Tree → Tree
  | _, absent => absent
  | [], tree => change tree
  | .left :: path, node content left right => node content (modifyAt change path left) right
  | .right :: path, node content left right => node content left (modifyAt change path right)

end Tree
end DeskCalculator
