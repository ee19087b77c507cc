import DeskCalculator.Tree.Editing

/-! The editable leaf of a tree, found from the root by going right first. An edit changes what this
leaf holds and no other node. -/

namespace DeskCalculator.Tree

def contentAt? (tree : Tree) (path : Path) : Option Content :=
  match tree.subtree path with
  | absent => none
  | node content _ _ => some content

theorem editableLeaf?_node (content : Content) (left right : Tree) :
    (node content left right).editableLeaf? =
      if content.isLeaf then some (node content left right)
      else if right.isPresent then right.editableLeaf?
      else left.editableLeaf? := by
  unfold editableLeaf?
  rw [editablePath?]
  split
  · rfl
  · split <;> rw [Option.map_map] <;> rfl

theorem editableLeaf?_left (op : Operator) (left : Tree) :
    (node (.operator op) left absent).editableLeaf? = left.editableLeaf? := by
  rw [editableLeaf?_node]
  rfl

theorem editableLeaf?_right (op : Operator) (left : Tree) {right : Tree}
    (present : right.isPresent = true) :
    (node (.operator op) left right).editableLeaf? = right.editableLeaf? := by
  rw [editableLeaf?_node, if_pos present]
  rfl

theorem editLeaf_left (value : Option Float) (op : Operator) (left : Tree) :
    (node (.operator op) left absent).editLeaf value =
      node (.operator op) (left.editLeaf value) absent := rfl

theorem editLeaf_right (value : Option Float) (op : Operator) (left : Tree) {right : Tree}
    (present : right.isPresent = true) :
    (node (.operator op) left right).editLeaf value =
      node (.operator op) left (right.editLeaf value) := by
  rw [editLeaf, if_pos present]
  rfl

/-- An edit changes no node but the editable leaf. -/
theorem contentAt?_editLeaf (value : Option Float) (tree : Tree) (path : Path)
    (elsewhere : tree.editablePath? ≠ some path) :
    (tree.editLeaf value).contentAt? path = tree.contentAt? path := by
  induction tree generalizing path with
  | absent => rfl
  | node content left right leftHypothesis rightHypothesis =>
      rw [editLeaf]
      rw [editablePath?] at elsewhere
      split
      · rename_i leaf
        rw [if_pos leaf] at elsewhere
        cases path with
        | nil => exact absurd rfl elsewhere
        | cons side rest => cases side <;> rfl
      · rename_i inner
        rw [if_neg inner] at elsewhere
        split
        · rename_i present
          rw [if_pos present] at elsewhere
          cases path with
          | nil => rfl
          | cons side rest =>
              cases side with
              | left => rfl
              | right =>
                  apply rightHypothesis rest
                  intro found
                  exact elsewhere (by rw [found]; rfl)
        · rename_i missing
          rw [if_neg missing] at elsewhere
          cases path with
          | nil => rfl
          | cons side rest =>
              cases side with
              | right => rfl
              | left =>
                  apply leftHypothesis rest
                  intro found
                  exact elsewhere (by rw [found]; rfl)

/-! ### Edits one after the other -/

theorem isPresent_editLeaf (value : Option Float) (tree : Tree) :
    (tree.editLeaf value).isPresent = tree.isPresent := by
  cases tree with
  | absent => rfl
  | node content left right =>
      rw [editLeaf]
      split
      · rfl
      · split <;> rfl

/-- An edit moves the editable leaf nowhere else. -/
theorem editablePath?_editLeaf (value : Option Float) (tree : Tree) :
    (tree.editLeaf value).editablePath? = tree.editablePath? := by
  induction tree with
  | absent => rfl
  | node content left right leftHypothesis rightHypothesis =>
      rw [editLeaf]
      split
      · rename_i leaf
        rw [editablePath?, editablePath?, if_pos leaf]
        rfl
      · rename_i inner
        split
        · rename_i present
          rw [editablePath?, editablePath?, if_neg inner, if_neg inner, isPresent_editLeaf,
            if_pos present, if_pos present, rightHypothesis]
        · rename_i missing
          rw [editablePath?, editablePath?, if_neg inner, if_neg inner, if_neg missing,
            if_neg missing, leftHypothesis]

theorem editLeaf_editLeaf (first second : Option Float) (tree : Tree) :
    (tree.editLeaf first).editLeaf second = tree.editLeaf second := by
  induction tree with
  | absent => rfl
  | node content left right leftHypothesis rightHypothesis =>
      rw [editLeaf, editLeaf]
      split
      · rfl
      · rename_i inner
        split
        · rename_i present
          rw [editLeaf, if_neg inner, isPresent_editLeaf, if_pos present, rightHypothesis]
        · rename_i missing
          rw [editLeaf, if_neg inner, if_neg missing, leftHypothesis]

theorem editableLeaf?_editLeaf {tree : Tree} {content : Content} {left right : Tree}
    (found : tree.editableLeaf? = some (node content left right)) (value : Option Float) :
    (tree.editLeaf value).editableLeaf? = some (node (.operand value) left right) := by
  induction tree with
  | absent => cases found
  | node root first second firstHypothesis secondHypothesis =>
      rw [editableLeaf?_node] at found
      rw [editLeaf]
      split
      · rename_i leaf
        rw [if_pos leaf] at found
        cases found
        rfl
      · rename_i inner
        rw [if_neg inner] at found
        split
        · rename_i present
          rw [if_pos present] at found
          rw [editableLeaf?_node, if_neg inner, isPresent_editLeaf, if_pos present]
          exact secondHypothesis found
        · rename_i missing
          rw [if_neg missing] at found
          rw [editableLeaf?_node, if_neg inner, if_neg missing]
          exact firstHypothesis found

theorem editLeaf_of_held {tree : Tree} {value : Option Float} {left right : Tree}
    (held : tree.editableLeaf? = some (node (.operand value) left right)) :
    tree.editLeaf value = tree := by
  induction tree with
  | absent => rfl
  | node root first second firstHypothesis secondHypothesis =>
      rw [editableLeaf?_node] at held
      rw [editLeaf]
      split
      · rename_i leaf
        rw [if_pos leaf] at held
        cases held
        rfl
      · rename_i inner
        rw [if_neg inner] at held
        split
        · rename_i present
          rw [if_pos present] at held
          rw [secondHypothesis held]
        · rename_i missing
          rw [if_neg missing] at held
          rw [firstHypothesis held]

end DeskCalculator.Tree
