import DeskCalculator.Proofs.TreeShape

/-! The editable leaf as a place that is read and written. The way to it is described by itself: right
wherever there is a right child, left otherwise, down to the first blank or operand node or to an operator
without children. In the first case the search finds the node at its end, and an edit writes there and
nowhere else; in the second it finds nothing. This holds of all trees, those with children missing or to
spare included. -/

namespace DeskCalculator.Tree

/-! ### The way down -/

inductive Descent : Tree → Path → Tree → Prop
  | leaf {content : Content} (left right : Tree) : content.isLeaf = true →
      Descent (node content left right) [] (node content left right)
  | bare (op : Operator) : Descent (.bare op) [] (.bare op)
  | right (op : Operator) (left : Tree) {right last : Tree} {path : Path} :
      Descent right path last → Descent (node (.operator op) left right) (.right :: path) last
  | left (op : Operator) {left last : Tree} {path : Path} :
      Descent left path last → Descent (node (.operator op) left absent) (.left :: path) last

theorem Descent.isPresent {tree last : Tree} {path : Path} (descent : tree.Descent path last) :
    tree.isPresent = true := by
  cases descent <;> rfl

theorem exists_descent {tree : Tree} (present : tree.isPresent = true) :
    ∃ path last, tree.Descent path last := by
  induction tree with
  | absent => cases present
  | node content left right leftHypothesis rightHypothesis =>
      cases content with
      | blank => exact ⟨[], _, .leaf left right rfl⟩
      | operand value => exact ⟨[], _, .leaf left right rfl⟩
      | operator op =>
          cases right with
          | node _ _ _ =>
              obtain ⟨path, last, descent⟩ := rightHypothesis rfl
              exact ⟨.right :: path, last, .right op left descent⟩
          | absent =>
              cases left with
              | node _ _ _ =>
                  obtain ⟨path, last, descent⟩ := leftHypothesis rfl
                  exact ⟨.left :: path, last, .left op descent⟩
              | absent => exact ⟨[], _, .bare op⟩

theorem Descent.unique {tree last other : Tree} {path way : Path} (descent : tree.Descent path last)
    (second : tree.Descent way other) : way = path ∧ other = last := by
  induction descent generalizing way other with
  | leaf left right isLeaf =>
      cases second with
      | leaf _ _ _ => exact ⟨rfl, rfl⟩
      | bare op => exact ⟨rfl, rfl⟩
      | right op _ _ => cases isLeaf
      | left op _ => cases isLeaf
  | bare op =>
      cases second with
      | leaf _ _ isLeaf => exact ⟨rfl, rfl⟩
      | bare _ => exact ⟨rfl, rfl⟩
      | right _ _ below => cases below
      | left _ below => cases below
  | right op left below inductionHypothesis =>
      cases second with
      | leaf _ _ isLeaf => cases isLeaf
      | bare _ => cases below
      | right _ _ again =>
          obtain ⟨rfl, rfl⟩ := inductionHypothesis again
          exact ⟨rfl, rfl⟩
      | left _ _ => cases below
  | left op below inductionHypothesis =>
      cases second with
      | leaf _ _ isLeaf => cases isLeaf
      | bare _ => cases below
      | right _ _ again => cases again
      | left _ again =>
          obtain ⟨rfl, rfl⟩ := inductionHypothesis again
          exact ⟨rfl, rfl⟩

theorem Descent.subtree {tree last : Tree} {path : Path} (descent : tree.Descent path last) :
    tree.subtree path = last := by
  induction descent with
  | leaf left right isLeaf => rfl
  | bare op => rfl
  | right op left below inductionHypothesis => exact inductionHypothesis
  | left op below inductionHypothesis => exact inductionHypothesis

theorem Descent.leaf_or_bare {tree last : Tree} {path : Path} (descent : tree.Descent path last) :
    last.isLeaf = true ∨ ∃ op, last = .bare op := by
  induction descent with
  | leaf left right isLeaf => exact .inl isLeaf
  | bare op => exact .inr ⟨op, rfl⟩
  | right op left below inductionHypothesis => exact inductionHypothesis
  | left op below inductionHypothesis => exact inductionHypothesis

/-- The search goes this way. -/
theorem Descent.editablePath? {tree last : Tree} {path : Path} (descent : tree.Descent path last) :
    tree.editablePath? = if last.isLeaf then some path else none := by
  induction descent with
  | leaf left right isLeaf =>
      rw [Tree.editablePath?, if_pos isLeaf]
      exact (if_pos isLeaf).symm
  | bare op => rfl
  | right op left below inductionHypothesis =>
      have inner : ¬ (Content.operator op).isLeaf = true := Bool.false_ne_true
      rw [Tree.editablePath?, if_neg inner, if_pos below.isPresent, inductionHypothesis]
      split <;> rfl
  | left op below inductionHypothesis =>
      have inner : ¬ (Content.operator op).isLeaf = true := Bool.false_ne_true
      have missing : ¬ absent.isPresent = true := Bool.false_ne_true
      rw [Tree.editablePath?, if_neg inner, if_neg missing, inductionHypothesis]
      split <;> rfl

theorem Descent.editablePath?_eq_none_iff {tree last : Tree} {path : Path}
    (descent : tree.Descent path last) :
    tree.editablePath? = none ↔ ∃ op, last = .bare op := by
  have searched := descent.editablePath?
  rcases descent.leaf_or_bare with isLeaf | ⟨op, rfl⟩
  · rw [searched, if_pos isLeaf]
    constructor
    · intro missing
      cases missing
    · rintro ⟨op, rfl⟩
      cases isLeaf
  · exact ⟨fun _ => ⟨op, rfl⟩, fun _ => searched⟩

theorem Descent.of_editablePath? {tree last : Tree} {path leaf : Path}
    (descent : tree.Descent path last) (found : tree.editablePath? = some leaf) :
    leaf = path ∧ tree.editableLeaf? = some last ∧ last.isLeaf = true := by
  have searched := descent.editablePath?
  rw [found] at searched
  split at searched
  · rename_i isLeaf
    cases searched
    refine ⟨rfl, ?_, isLeaf⟩
    rw [editableLeaf?, found, ← descent.subtree]
    rfl
  · cases searched

/-! ### The node that is written -/

/-- An edit gives the node found its value where it stands. -/
theorem modifyAt_editablePath? {tree : Tree} {path : Path} (found : tree.editablePath? = some path)
    (value : Option Float) : tree.modifyAt (setValue value) path = tree.editLeaf value := by
  induction tree generalizing path with
  | absent => cases found
  | node content left right leftHypothesis rightHypothesis =>
      rw [Tree.editablePath?] at found
      rw [editLeaf]
      split at found
      · rename_i leaf
        cases found
        rw [if_pos leaf]
        exact if_pos leaf
      · rename_i inner
        rw [if_neg inner]
        split at found
        · rename_i present
          obtain ⟨below, searched, rfl⟩ := Option.map_eq_some_iff.mp found
          rw [if_pos present, ← rightHypothesis searched]
          rfl
        · rename_i missing
          obtain ⟨below, searched, rfl⟩ := Option.map_eq_some_iff.mp found
          rw [if_neg missing, ← leftHypothesis searched]
          rfl

theorem subtree_setValue (value : Option Float) (tree : Tree) (side : Side) (rest : Path) :
    (tree.setValue value).subtree (side :: rest) = tree.subtree (side :: rest) := by
  cases tree with
  | absent => rfl
  | node content left right =>
      rw [setValue]
      split
      · cases side <;> rfl
      · rfl

/-- Where a change keeps the children of the node that it is made to, it reaches no tree but those that
this node is a part of. -/
theorem subtree_modifyAt_off {change : Tree → Tree}
    (keeps : ∀ tree side rest, (change tree).subtree (side :: rest) = tree.subtree (side :: rest))
    (tree : Tree) {path other : Path} (off : ¬ other <+: path) :
    (tree.modifyAt change path).subtree other = tree.subtree other := by
  induction path generalizing tree other with
  | nil =>
      cases other with
      | nil => exact absurd List.nil_prefix off
      | cons side rest =>
          cases tree with
          | absent => rfl
          | node content left right => exact keeps _ side rest
  | cons side rest inductionHypothesis =>
      cases tree with
      | absent => cases side <;> rfl
      | node content left right =>
          cases other with
          | nil => exact absurd List.nil_prefix off
          | cons first later =>
              have below (same : first = side) : ¬ later <+: rest := fun part =>
                off (same ▸ (List.prefix_cons_inj first).mpr part)
              cases side <;> cases first
              case left.right | right.left => rfl
              all_goals exact inductionHypothesis _ (below rfl)

theorem isSome_contentAt? (tree : Tree) (path : Path) :
    (tree.contentAt? path).isSome = (tree.subtree path).isPresent := by
  unfold contentAt?
  cases tree.subtree path <;> rfl

/-- An edit of an operand or blank node: what the leaf holds is all that changes. -/
structure Edited (tree edited : Tree) (leaf : Path) (value : Option Float) : Prop where
  written : ∃ held left right, held.isLeaf = true ∧ tree.subtree leaf = node held left right ∧
    edited.subtree leaf = node (.operand value) left right
  off : ∀ other, ¬ other <+: leaf → edited.subtree other = tree.subtree other
  contents : ∀ other, other ≠ leaf → edited.contentAt? other = tree.contentAt? other
  places : ∀ other, (edited.subtree other).isPresent = (tree.subtree other).isPresent
  found : edited.editablePath? = some leaf

theorem edited_editLeaf {tree : Tree} {leaf : Path} (found : tree.editablePath? = some leaf)
    {held : Content} {left right : Tree} (isLeaf : held.isLeaf = true)
    (holds : tree.subtree leaf = node held left right) (value : Option Float) :
    tree.Edited (tree.editLeaf value) leaf value := by
  have leafBefore : tree.editableLeaf? = some (node held left right) := by
    rw [editableLeaf?, found, ← holds]
    rfl
  have again : (tree.editLeaf value).editablePath? = some leaf := by
    rw [editablePath?_editLeaf, found]
  have leafAfter := editableLeaf?_editLeaf leafBefore value
  rw [editableLeaf?, again] at leafAfter
  have written : (tree.editLeaf value).subtree leaf = node (.operand value) left right :=
    Option.some.inj leafAfter
  have contents (other : Path) (elsewhere : other ≠ leaf) :
      (tree.editLeaf value).contentAt? other = tree.contentAt? other := by
    apply contentAt?_editLeaf
    rw [found]
    exact fun same => elsewhere (Option.some.inj same).symm
  refine ⟨⟨held, left, right, isLeaf, holds, written⟩, fun other off => ?_, contents,
    fun other => ?_, again⟩
  · rw [← modifyAt_editablePath? found]
    exact subtree_modifyAt_off (subtree_setValue value) tree off
  · by_cases same : other = leaf
    · rw [same, written, holds]
      rfl
    · rw [← isSome_contentAt?, ← isSome_contentAt?, contents other same]

/-- Of any node there is exactly one way down. The search finds nothing exactly if this way ends in an
operator without children. Otherwise it finds the leaf at its end; giving that leaf a value makes it an
operand with this value, and changes neither a tree off the way nor what any other node holds nor which
places are filled, so the next search ends in the same place. Of two values the second counts, and the
value that an operand holds already changes nothing. -/
theorem editable_leaf_is_lens (content : Content) (left right : Tree) :
    let tree := node content left right
    ∃ way last, tree.Descent way last ∧
      (∀ other lastOther, tree.Descent other lastOther → other = way ∧ lastOther = last) ∧
      (tree.editablePath? = none ↔ ∃ op, last = .bare op) ∧
      ∀ leaf, tree.editablePath? = some leaf →
        leaf = way ∧ tree.editableLeaf? = some last ∧ last.isLeaf = true ∧
        ∀ value, let edited := tree.modifyAt (setValue value) leaf
          edited = tree.editLeaf value ∧ tree.Edited edited leaf value ∧
          (∀ second, edited.modifyAt (setValue second) leaf =
            tree.modifyAt (setValue second) leaf) ∧
          (tree.contentAt? leaf = some (.operand value) → edited = tree) := by
  intro tree
  have present : tree.isPresent = true := rfl
  obtain ⟨way, last, descent⟩ := exists_descent present
  refine ⟨way, last, descent, fun other lastOther => descent.unique,
    descent.editablePath?_eq_none_iff, fun leaf found => ?_⟩
  obtain ⟨rfl, read, isLeaf⟩ := descent.of_editablePath? found
  refine ⟨rfl, read, isLeaf, fun value => ?_⟩
  intro edited
  have written : edited = tree.editLeaf value := modifyAt_editablePath? found value
  cases last with
  | absent => cases isLeaf
  | node held leafLeft leafRight =>
      have only : tree.Edited edited leaf value :=
        written ▸ edited_editLeaf found isLeaf descent.subtree value
      refine ⟨written, only, fun second => ?_, fun holds => ?_⟩
      · rw [modifyAt_editablePath? only.found, modifyAt_editablePath? found, written,
          editLeaf_editLeaf]
      · rw [contentAt?, descent.subtree] at holds
        obtain rfl : held = .operand value := Option.some.inj holds
        rw [written, editLeaf_of_held read]

/-- The search goes right under a unary operator too, and an edit keeps the children of an operand. -/
example :
    let tree := node (.operator (.unary "√" some)) (.operand (some 4))
      (node (.operand none) (.operand (some 7)) absent)
    tree.editablePath? = some [.right] ∧
      (tree.modifyAt (setValue (some 3)) [.right]).subtree [.right, .left] = .operand (some 7) :=
  ⟨rfl, rfl⟩

end DeskCalculator.Tree
