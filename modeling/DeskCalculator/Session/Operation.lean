import DeskCalculator.Session.Basic

/-! Keys that end a number: operators, the end key, the delete key, and grafting a tree from elsewhere. An
operator fills a blank tree, or takes a tree with a value as its left operand. -/

namespace DeskCalculator.Session

def endNumber (session : Session) : Session :=
  { session with entry := none }

/-- The memory bank is kept. -/
def discard (session : Session) : Session :=
  { session with tree := .blank, entry := none }

/-- Ends the number in any case; the answer is the symbol of the operator that was applied. -/
def applyOperator (session : Session) (op? : Option Operator) : Session × Option String :=
  let ended := session.endNumber
  match op? with
  | none => (ended, none)
  | some op =>
    match ended.tree.graftOperator? op with
    | some tree => ({ ended with tree := tree }, some op.symbol)
    | none =>
      match ended.tree.evaluate with
      | none => (ended, none)
      | some _ => ({ ended with tree := (Tree.bare op).graft ended.tree }, some op.symbol)

def pressOperator (session : Session) (name : String) : Session × Option String :=
  session.applyOperator (session.registry.lookup? name)

def graft (session : Session) (incoming : Tree) : Session × Option Float :=
  ({ session.endNumber with tree := session.tree.graft incoming }, incoming.evaluate)

end DeskCalculator.Session
