import DeskCalculator.Proofs.EditableLeaf
import DeskCalculator.Tree.Evaluation

/-! Shapes of trees. A tree is complete when every node under it has a child in each place that its
operator uses and nowhere else. A growing tree is one that keys can make: its children are complete,
and only the places at its root may still wait for theirs. -/

namespace DeskCalculator.Tree

/-- Operands may lack their values; blank nodes have no part in a complete tree. -/
inductive Complete : Tree → Prop
  | operand (value : Option Float) : Complete (.operand value)
  | unary (symbol : String) (apply : Float → Option Float) {inner : Tree} :
      Complete inner → Complete (node (.operator (.unary symbol apply)) inner absent)
  | binary (symbol : String) (apply : Float → Float → Option Float) {left right : Tree} :
      Complete left → Complete right →
        Complete (node (.operator (.binary symbol apply)) left right)

inductive Growing : Tree → Prop
  | blank : Growing .blank
  | bare (op : Operator) : Growing (.bare op)
  | half (symbol : String) (apply : Float → Float → Option Float) {left : Tree} :
      Complete left → Growing (node (.operator (.binary symbol apply)) left absent)
  | complete {tree : Tree} : Complete tree → Growing tree

/-- The children of the root fill the first places of its arity and no others. -/
def FilledFromLeft : Tree → Prop
  | absent => False
  | node content left right =>
    ∃ filled, filled ≤ content.arity ∧
      left.isPresent = decide (1 ≤ filled) ∧ right.isPresent = decide (2 ≤ filled)

@[simp]
theorem isPresent_absent : absent.isPresent = false := rfl

theorem isPresent_of_isComplete {tree : Tree} (complete : tree.isComplete = true) :
    tree.isPresent = true := by
  cases tree with
  | absent => cases complete
  | node content left right => rfl

theorem Complete.isPresent {tree : Tree} (complete : tree.Complete) : tree.isPresent = true := by
  cases complete <;> rfl

theorem Complete.isComplete {tree : Tree} (complete : tree.Complete) : tree.isComplete = true := by
  cases complete with
  | operand value => rfl
  | unary symbol apply inner => exact inner.isPresent
  | binary symbol apply left right => simp [Tree.isComplete, left.isPresent, right.isPresent]

theorem subtree_absent (path : Path) : absent.subtree path = absent := by
  cases path with
  | nil => rfl
  | cons side rest => cases side <;> rfl

theorem subtree_right (content : Content) (left right : Tree) (rest : Path) :
    (node content left right).subtree (.right :: rest) = right.subtree rest := rfl

theorem subtree_childless (content : Content) {path : Path} (proper : path ≠ []) :
    (node content absent absent).subtree path = absent := by
  cases path with
  | nil => exact absurd rfl proper
  | cons side rest => cases side <;> exact subtree_absent rest

theorem Complete.subtree {tree : Tree} (complete : tree.Complete) (path : Path)
    (present : (tree.subtree path).isPresent = true) : (tree.subtree path).Complete := by
  induction complete generalizing path with
  | operand value =>
      by_cases root : path = []
      · subst path
        exact .operand value
      · rw [Tree.operand, subtree_childless _ root] at present
        cases present
  | unary symbol apply inner innerHypothesis =>
      cases path with
      | nil => exact .unary symbol apply inner
      | cons side rest =>
          cases side with
          | left => exact innerHypothesis rest present
          | right =>
              rw [subtree_right, subtree_absent] at present
              cases present
  | binary symbol apply left right leftHypothesis rightHypothesis =>
      cases path with
      | nil => exact .binary symbol apply left right
      | cons side rest =>
          cases side with
          | left => exact leftHypothesis rest present
          | right => exact rightHypothesis rest present

theorem graft_bare (op : Operator) (incoming : Tree) :
    (bare op).graft incoming = node (.operator op) incoming absent := by
  cases op <;> rfl

theorem graft_half (symbol : String) (apply : Float → Float → Option Float) {left : Tree}
    (present : left.isPresent = true) (incoming : Tree) :
    (node (.operator (.binary symbol apply)) left absent).graft incoming =
      node (.operator (.binary symbol apply)) left incoming := by
  simp [graft, present, Content.arity, Operator.arity]

theorem Complete.editableLeaf {tree : Tree} (complete : tree.Complete) :
    ∃ value, tree.editableLeaf? = some (Tree.operand value) := by
  induction complete with
  | operand value => exact ⟨value, rfl⟩
  | unary symbol apply inner innerHypothesis =>
      rw [editableLeaf?_left]
      exact innerHypothesis
  | binary symbol apply left right leftHypothesis rightHypothesis =>
      rw [editableLeaf?_right _ _ right.isPresent]
      exact rightHypothesis

/-! ### Growing trees -/

/-- A graft replaces the root, or fills the first or the second place of its operator; the incoming
tree has no say in which of these it is. -/
theorem Growing.graft_cases {tree : Tree} (growing : tree.Growing) :
    (∀ incoming, tree.graft incoming = incoming) ∨
    (∃ op, ∀ incoming, tree.graft incoming = node (.operator op) incoming absent) ∨
    (∃ symbol apply left, left.Complete ∧
      ∀ incoming, tree.graft incoming =
        node (.operator (.binary symbol apply)) left incoming) := by
  cases growing with
  | blank => exact .inl fun incoming => rfl
  | bare op => exact .inr (.inl ⟨op, graft_bare op⟩)
  | half symbol apply left =>
      exact .inr (.inr ⟨symbol, apply, _, left, graft_half symbol apply left.isPresent⟩)
  | complete whole =>
      -- Every place is taken, so the rule for the first and for the second place both fail.
      refine .inl fun incoming => ?_
      cases whole with
      | operand value => rfl
      | unary symbol apply inner =>
          simp [Tree.graft, inner.isPresent, Content.arity, Operator.arity]
      | binary symbol apply left right =>
          simp [Tree.graft, left.isPresent, right.isPresent]

theorem Growing.of_operator (op : Operator) {inner : Tree} (complete : inner.Complete) :
    Growing (node (.operator op) inner absent) := by
  cases op with
  | unary symbol apply => exact .complete (.unary symbol apply complete)
  | binary symbol apply => exact .half symbol apply complete

theorem Growing.graft {tree incoming : Tree} (growing : tree.Growing)
    (complete : incoming.Complete) : (tree.graft incoming).Growing := by
  rcases growing.graft_cases with replaced | ⟨op, first⟩ | ⟨symbol, apply, left, whole, second⟩
  · rw [replaced]
    exact .complete complete
  · rw [first]
    exact .of_operator op complete
  · rw [second]
    exact .complete (.binary symbol apply whole complete)

/-- The search for the editable leaf, which starts at the root, ends in the tree grafted last. -/
theorem Growing.editableLeaf?_graft {tree incoming : Tree} (growing : tree.Growing)
    (present : incoming.isPresent = true) :
    (tree.graft incoming).editableLeaf? = incoming.editableLeaf? := by
  rcases growing.graft_cases with replaced | ⟨op, first⟩ | ⟨symbol, apply, left, _, second⟩
  · rw [replaced]
  · rw [first, editableLeaf?_left]
  · rw [second, editableLeaf?_right _ _ present]

theorem Growing.editLeaf_graft (value : Option Float) {tree incoming : Tree}
    (growing : tree.Growing) (present : incoming.isPresent = true) :
    (tree.graft incoming).editLeaf value = tree.graft (incoming.editLeaf value) := by
  rcases growing.graft_cases with replaced | ⟨op, first⟩ | ⟨symbol, apply, left, _, second⟩
  · rw [replaced, replaced]
  · rw [first, first, editLeaf_left]
  · rw [second, second, editLeaf_right value _ _ present]

theorem Growing.graftOperator {tree grown : Tree} {op : Operator} (growing : tree.Growing)
    (grafted : tree.graftOperator? op = some grown) : grown = .bare op := by
  cases growing with
  | blank => exact (Option.some.inj grafted).symm
  | bare other => cases grafted
  | half symbol apply left => cases grafted
  | complete whole => cases whole <;> cases grafted

theorem Growing.complete_of_evaluate {tree : Tree} {value : Float} (growing : tree.Growing)
    (defined : tree.evaluate = some value) : tree.Complete := by
  cases growing with
  | blank => cases defined
  | bare op => cases op <;> cases defined
  | half symbol apply left => cases defined
  | complete whole => exact whole

theorem Growing.isComplete_iff {tree : Tree} (growing : tree.Growing) :
    tree.isComplete = true ↔ tree.Complete := by
  constructor
  · intro shallow
    cases growing with
    | blank => cases shallow
    | bare op => cases op <;> cases shallow
    | half symbol apply left => simp [Tree.isComplete] at shallow
    | complete whole => exact whole
  · intro whole
    exact whole.isComplete

theorem Growing.filledFromLeft {tree : Tree} (growing : tree.Growing) : tree.FilledFromLeft := by
  cases growing with
  | blank => exact ⟨0, Nat.zero_le _, rfl, rfl⟩
  | bare op => exact ⟨0, Nat.zero_le _, rfl, rfl⟩
  | half symbol apply left => exact ⟨1, Nat.le_succ 1, left.isPresent, rfl⟩
  | complete whole =>
      cases whole with
      | operand value => exact ⟨0, Nat.zero_le _, rfl, rfl⟩
      | unary symbol apply inner => exact ⟨1, Nat.le_refl 1, inner.isPresent, rfl⟩
      | binary symbol apply left right =>
          exact ⟨2, Nat.le_refl 2, left.isPresent, right.isPresent⟩

/-- Whatever is still missing in a growing tree is missing at its root. -/
theorem Growing.subtree {tree : Tree} (growing : tree.Growing) (path : Path) (proper : path ≠ [])
    (present : (tree.subtree path).isPresent = true) : (tree.subtree path).Complete := by
  cases growing with
  | blank =>
      rw [Tree.blank, subtree_childless _ proper] at present
      cases present
  | bare op =>
      rw [Tree.bare, subtree_childless _ proper] at present
      cases present
  | half symbol apply left =>
      cases path with
      | nil => exact absurd rfl proper
      | cons side rest =>
          cases side with
          | left => exact left.subtree rest present
          | right =>
              rw [subtree_right, subtree_absent] at present
              cases present
  | complete whole => exact whole.subtree path present

theorem Growing.editableLeaf?_eq_none_iff {tree : Tree} (growing : tree.Growing) :
    tree.editableLeaf? = none ↔ ∃ op, tree = .bare op := by
  constructor
  · intro missing
    cases growing with
    | blank => cases missing
    | bare op => exact ⟨op, rfl⟩
    | half symbol apply left =>
        obtain ⟨value, found⟩ := left.editableLeaf
        rw [editableLeaf?_left, found] at missing
        cases missing
    | complete whole =>
        obtain ⟨value, found⟩ := whole.editableLeaf
        rw [found] at missing
        cases missing
  · rintro ⟨op, rfl⟩
    rfl

end DeskCalculator.Tree
