import DeskCalculator.Proofs.EditableLeaf

/-! Trees whose nodes have an identity. Equal marks stand for one and the same node, so overwriting a
node changes it in every tree that it is part of. A copy has nodes of its own, and no change of these
reaches the tree that was copied. -/

namespace DeskCalculator

inductive NodeTree where
  | absent
  | node (mark : Nat) (content : Content) (left right : NodeTree)

namespace NodeTree

structure Cell where
  content : Content
  left : NodeTree
  right : NodeTree

def toTree : NodeTree → Tree
  | absent => .absent
  | node _ content left right => .node content left.toTree right.toTree

def marks : NodeTree → List Nat
  | absent => []
  | node mark _ left right => mark :: (left.marks ++ right.marks)

def isPresent : NodeTree → Bool
  | absent => false
  | node _ _ _ _ => true

def subtree : Tree.Path → NodeTree → NodeTree
  | _, absent => absent
  | [], tree => tree
  | .left :: path, node _ _ left _ => left.subtree path
  | .right :: path, node _ _ _ right => right.subtree path

def editable : NodeTree → NodeTree
  | absent => absent
  | node mark content left right =>
    if content.isLeaf then node mark content left right
    else if right.isPresent then right.editable
    else left.editable

/-- Gives a node other content and other children, wherever it stands. -/
def overwrite (target : Nat) (cell : Cell) : NodeTree → NodeTree
  | absent => absent
  | node mark content left right =>
    if mark = target then node mark cell.content cell.left cell.right
    else node mark content (left.overwrite target cell) (right.overwrite target cell)

/-- A copy with the marks from `next` on, and the first mark after them. -/
def copy (next : Nat) : NodeTree → NodeTree × Nat
  | absent => (absent, next)
  | node _ content left right =>
    let (leftCopy, afterLeft) := left.copy (next + 1)
    let (rightCopy, afterRight) := right.copy afterLeft
    (node next content leftCopy rightCopy, afterRight)

@[simp]
theorem isPresent_toTree (tree : NodeTree) : tree.toTree.isPresent = tree.isPresent := by
  cases tree <;> rfl

theorem mem_marks_node {mark other : Nat} {content : Content} {left right : NodeTree} :
    other ∈ (node mark content left right).marks ↔
      other = mark ∨ other ∈ left.marks ∨ other ∈ right.marks := by
  rw [marks, List.mem_cons, List.mem_append]

theorem mem_marks_left {mark other : Nat} {content : Content} {left right : NodeTree}
    (member : other ∈ left.marks) : other ∈ (node mark content left right).marks :=
  mem_marks_node.mpr (.inr (.inl member))

theorem mem_marks_right {mark other : Nat} {content : Content} {left right : NodeTree}
    (member : other ∈ right.marks) : other ∈ (node mark content left right).marks :=
  mem_marks_node.mpr (.inr (.inr member))

theorem mem_marks_childless {mark other : Nat} {content : Content} :
    other ∈ (node mark content absent absent).marks ↔ other = mark :=
  List.mem_singleton

theorem nodup_marks_node {mark : Nat} {content : Content} {left right : NodeTree} :
    (node mark content left right).marks.Nodup ↔
      (mark ∉ left.marks ∧ mark ∉ right.marks) ∧ left.marks.Nodup ∧ right.marks.Nodup ∧
        ∀ other ∈ left.marks, other ∉ right.marks := by
  have apart : (∀ first ∈ left.marks, ∀ second ∈ right.marks, first ≠ second) ↔
      ∀ other ∈ left.marks, other ∉ right.marks :=
    ⟨fun different other inLeft inRight => different other inLeft other inRight rfl,
      fun different first inLeft second inRight same => different first inLeft (same ▸ inRight)⟩
  rw [marks, List.nodup_cons, List.mem_append, not_or, List.nodup_append, apart]

/-! ### Copies -/

theorem toTree_copy (next : Nat) (tree : NodeTree) : (tree.copy next).1.toTree = tree.toTree := by
  induction tree generalizing next with
  | absent => rfl
  | node mark content left right leftHypothesis rightHypothesis =>
      simp only [copy, toTree, leftHypothesis, rightHypothesis]

theorem le_copy (next : Nat) (tree : NodeTree) : next ≤ (tree.copy next).2 := by
  induction tree generalizing next with
  | absent => exact Nat.le_refl next
  | node mark content left right leftHypothesis rightHypothesis =>
      have first := leftHypothesis (next + 1)
      have second := rightHypothesis (left.copy (next + 1)).2
      change next ≤ (right.copy (left.copy (next + 1)).2).2
      omega

/-- The marks of a copy are all new. -/
theorem bounds_of_mem_copy {next mark : Nat} {tree : NodeTree}
    (member : mark ∈ (tree.copy next).1.marks) : next ≤ mark ∧ mark < (tree.copy next).2 := by
  induction tree generalizing next with
  | absent => cases member
  | node other content left right leftHypothesis rightHypothesis =>
      have first := left.le_copy (next + 1)
      have second := right.le_copy (left.copy (next + 1)).2
      change next ≤ mark ∧ mark < (right.copy (left.copy (next + 1)).2).2
      rcases mem_marks_node.mp member with same | inLeft | inRight
      · omega
      · have bounds := leftHypothesis inLeft
        omega
      · have bounds := rightHypothesis inRight
        omega

theorem nodup_copy (next : Nat) (tree : NodeTree) : (tree.copy next).1.marks.Nodup := by
  induction tree generalizing next with
  | absent => exact List.nodup_nil
  | node other content left right leftHypothesis rightHypothesis =>
      have between := left.le_copy (next + 1)
      refine nodup_marks_node.mpr ⟨⟨?_, ?_⟩, leftHypothesis _, rightHypothesis _, ?_⟩
      · intro member
        have bounds := bounds_of_mem_copy member
        omega
      · intro member
        have bounds := bounds_of_mem_copy member
        omega
      · intro mark inLeft inRight
        have leftBounds := bounds_of_mem_copy inLeft
        have rightBounds := bounds_of_mem_copy inRight
        omega

/-! ### Overwriting -/

section Overwrite

variable {target : Nat} {cell : Cell}

theorem overwrite_of_not_mem {tree : NodeTree} (missing : target ∉ tree.marks) :
    tree.overwrite target cell = tree := by
  induction tree with
  | absent => rfl
  | node mark content left right leftHypothesis rightHypothesis =>
      rw [mem_marks_node, not_or, not_or] at missing
      rw [overwrite, if_neg (Ne.symm missing.1), leftHypothesis missing.2.1,
        rightHypothesis missing.2.2]

theorem mem_marks_overwrite {tree : NodeTree} {mark : Nat}
    (member : mark ∈ (tree.overwrite target cell).marks) :
    mark ∈ tree.marks ∨ mark ∈ cell.left.marks ∨ mark ∈ cell.right.marks := by
  induction tree with
  | absent => cases member
  | node other content left right leftHypothesis rightHypothesis =>
      rw [mem_marks_node]
      unfold overwrite at member
      split at member
      · rcases mem_marks_node.mp member with same | children
        · exact .inl (.inl same)
        · exact .inr children
      · rcases mem_marks_node.mp member with same | inLeft | inRight
        · exact .inl (.inl same)
        · exact (leftHypothesis inLeft).imp_left fun inside => .inr (.inl inside)
        · exact (rightHypothesis inRight).imp_left fun inside => .inr (.inr inside)

end Overwrite

/-! ### Parts of a tree -/

theorem subtree_absent (path : Tree.Path) : absent.subtree path = absent := by
  cases path with
  | nil => rfl
  | cons side rest => cases side <;> rfl

theorem mem_marks_of_subtree {tree : NodeTree} {path : Tree.Path} {mark : Nat}
    (member : mark ∈ (tree.subtree path).marks) : mark ∈ tree.marks := by
  induction tree generalizing path with
  | absent =>
      rw [subtree_absent] at member
      exact member
  | node other content left right leftHypothesis rightHypothesis =>
      cases path with
      | nil => exact member
      | cons side rest =>
          cases side with
          | left => exact mem_marks_left (leftHypothesis member)
          | right => exact mem_marks_right (rightHypothesis member)

theorem mem_marks_of_editable {tree : NodeTree} {mark : Nat}
    (member : mark ∈ tree.editable.marks) : mark ∈ tree.marks := by
  induction tree with
  | absent => cases member
  | node other content left right leftHypothesis rightHypothesis =>
      unfold editable at member
      split at member
      · exact member
      · split at member
        · exact mem_marks_right (rightHypothesis member)
        · exact mem_marks_left (leftHypothesis member)

theorem isLeaf_of_editable {tree : NodeTree} {mark : Nat} {content : Content}
    {left right : NodeTree} (found : tree.editable = node mark content left right) :
    content.isLeaf = true := by
  induction tree with
  | absent => cases found
  | node other old oldLeft oldRight leftHypothesis rightHypothesis =>
      unfold editable at found
      split at found
      · rename_i leaf
        cases found
        exact leaf
      · split at found
        · exact rightHypothesis found
        · exact leftHypothesis found

theorem editLeaf_of_editable_absent {tree : NodeTree} (missing : tree.editable = absent)
    (value : Option Float) : tree.toTree.editLeaf value = tree.toTree := by
  induction tree with
  | absent => rfl
  | node mark content left right leftHypothesis rightHypothesis =>
      unfold editable at missing
      split at missing
      · cases missing
      · rename_i inner
        rw [toTree, Tree.editLeaf, if_neg inner, isPresent_toTree]
        split at missing
        · rename_i present
          rw [if_pos present, rightHypothesis missing]
        · rename_i lacking
          rw [if_neg lacking, leftHypothesis missing]

/-- Where no node stands twice, overwriting the editable leaf is the edit of the tree. -/
theorem toTree_overwrite_editable {tree : NodeTree} (single : tree.marks.Nodup) {mark : Nat}
    {content : Content} {left right : NodeTree}
    (found : tree.editable = node mark content left right) (value : Option Float) :
    (tree.overwrite mark ⟨.operand value, left, right⟩).toTree = tree.toTree.editLeaf value ∧
      (tree.overwrite mark ⟨.operand value, left, right⟩).marks = tree.marks := by
  induction tree with
  | absent => cases found
  | node other old oldLeft oldRight leftHypothesis rightHypothesis =>
      obtain ⟨⟨notLeft, notRight⟩, leftSingle, rightSingle, separate⟩ := nodup_marks_node.mp single
      have member : mark ∈ (node mark content left right).marks := List.mem_cons_self
      rw [toTree, Tree.editLeaf]
      unfold editable at found
      split at found
      · rename_i leaf
        cases found
        rw [overwrite, if_pos rfl, if_pos leaf]
        exact ⟨rfl, rfl⟩
      · rename_i inner
        rw [if_neg inner, isPresent_toTree]
        split at found
        · rename_i present
          rw [← found] at member
          have inRight := mem_marks_of_editable member
          have elsewhere : mark ∉ oldLeft.marks := fun inLeft => separate mark inLeft inRight
          have different : other ≠ mark := fun same => notRight (same ▸ inRight)
          obtain ⟨edited, kept⟩ := rightHypothesis rightSingle found
          rw [overwrite, if_neg different, overwrite_of_not_mem elsewhere, if_pos present, toTree,
            marks, edited, kept]
          exact ⟨rfl, rfl⟩
        · rename_i lacking
          rw [← found] at member
          have inLeft := mem_marks_of_editable member
          have elsewhere : mark ∉ oldRight.marks := separate mark inLeft
          have different : other ≠ mark := fun same => notLeft (same ▸ inLeft)
          obtain ⟨edited, kept⟩ := leftHypothesis leftSingle found
          rw [overwrite, if_neg different, overwrite_of_not_mem elsewhere, if_neg lacking, toTree,
            marks, edited, kept]
          exact ⟨rfl, rfl⟩

end NodeTree
end DeskCalculator
