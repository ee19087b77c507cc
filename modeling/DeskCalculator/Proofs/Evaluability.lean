import DeskCalculator.Proofs.LeafLens

/-! What a defined value tells about a tree. The places in use are those that the operators on the way to
them use. If a tree has a value, then each place in use holds a complete node, each operand in use has a
value, and so has each part in use. The other way round, where nothing is missing in use, only an operator
without a finite result can leave a tree without a value. -/

namespace DeskCalculator.Tree

/-! ### Evaluation as a relation -/

/-- A tree has a value where its operand has one, or where its operator has a finite result for the values
of the children that it uses. Other children are not looked at. -/
inductive Evaluates : Tree → Float → Prop
  | operand (value : Float) (left right : Tree) :
      Evaluates (node (.operand (some value)) left right) value
  | unary (symbol : String) (apply : Float → Option Float) (right : Tree) {left : Tree}
      {operand value : Float} : Evaluates left operand →
      Binary64.finite? (apply operand) = some value →
      Evaluates (node (.operator (.unary symbol apply)) left right) value
  | binary (symbol : String) (apply : Float → Float → Option Float) {left right : Tree}
      {leftOperand rightOperand value : Float} : Evaluates left leftOperand →
      Evaluates right rightOperand →
      Binary64.finite? (apply rightOperand leftOperand) = some value →
      Evaluates (node (.operator (.binary symbol apply)) left right) value

theorem Evaluates.evaluate {tree : Tree} {value : Float} (evaluates : tree.Evaluates value) :
    tree.evaluate = some value := by
  induction evaluates with
  | operand value left right => rfl
  | unary symbol apply right _ result leftHypothesis =>
      rw [Tree.evaluate, leftHypothesis]
      exact result
  | binary symbol apply _ _ result leftHypothesis rightHypothesis =>
      rw [Tree.evaluate, leftHypothesis, rightHypothesis]
      exact result

theorem evaluates_of_evaluate {tree : Tree} {value : Float} (defined : tree.evaluate = some value) :
    tree.Evaluates value := by
  induction tree generalizing value with
  | absent => cases defined
  | node content left right leftHypothesis rightHypothesis =>
      cases content with
      | blank => cases defined
      | operand held =>
          obtain rfl : held = some value := defined
          exact .operand value left right
      | operator op =>
          cases op with
          | unary symbol apply =>
              rw [Tree.evaluate] at defined
              split at defined
              · cases defined
              · rename_i found
                exact .unary symbol apply right (leftHypothesis found) defined
          | binary symbol apply =>
              rw [Tree.evaluate] at defined
              split at defined
              · rename_i rightFound leftFound
                exact .binary symbol apply (leftHypothesis leftFound) (rightHypothesis rightFound)
                  defined
              · cases defined

theorem evaluate_eq_some_iff {tree : Tree} {value : Float} :
    tree.evaluate = some value ↔ tree.Evaluates value :=
  ⟨evaluates_of_evaluate, Evaluates.evaluate⟩

/-! ### Places in use -/

/-- A path that takes at each node a place that the node uses; there may be nothing at its end. -/
inductive InUse : Tree → Path → Prop
  | root (tree : Tree) : InUse tree []
  | left {content : Content} {left : Tree} (right : Tree) {path : Path} : 1 ≤ content.arity →
      InUse left path → InUse (node content left right) (.left :: path)
  | right {content : Content} (left : Tree) {right : Tree} {path : Path} : 2 ≤ content.arity →
      InUse right path → InUse (node content left right) (.right :: path)

theorem Evaluates.part {tree : Tree} {value : Float} (evaluates : tree.Evaluates value)
    {path : Path} (used : tree.InUse path) : ∃ part, (tree.subtree path).Evaluates part := by
  induction used generalizing value with
  | root tree =>
      cases evaluates with
      | operand _ left right => exact ⟨value, .operand value left right⟩
      | unary symbol apply right below result => exact ⟨value, .unary symbol apply right below result⟩
      | binary symbol apply first second result =>
          exact ⟨value, .binary symbol apply first second result⟩
  | left right filled _ inductionHypothesis =>
      cases evaluates with
      | operand _ _ _ => cases filled
      | unary symbol apply _ below _ => exact inductionHypothesis below
      | binary symbol apply below _ _ => exact inductionHypothesis below
  | right left filled _ inductionHypothesis =>
      cases evaluates with
      | operand _ _ _ => cases filled
      | unary symbol apply _ _ _ => exact absurd filled (Nat.not_succ_le_self 1)
      | binary symbol apply _ below _ => exact inductionHypothesis below

theorem Evaluates.isPresent {tree : Tree} {value : Float} (evaluates : tree.Evaluates value) :
    tree.isPresent = true := by
  cases evaluates <;> rfl

/-- A node with all that a value needs; it counts as complete, and the tree under it has a value. -/
structure Whole (content : Content) (left right : Tree) : Prop where
  known : content ≠ .blank
  held : ∀ value, content = .operand value → value.isSome = true
  first : 1 ≤ content.arity → left.isPresent = true
  second : 2 ≤ content.arity → right.isPresent = true
  complete : (node content left right).isComplete = true
  defined : (node content left right).evaluate ≠ none

theorem Evaluates.whole {tree : Tree} {value : Float} (evaluates : tree.Evaluates value) :
    ∃ content left right, tree = node content left right ∧ Whole content left right := by
  have defined : tree.evaluate ≠ none := Option.ne_none_iff_exists'.mpr ⟨value, evaluates.evaluate⟩
  cases evaluates with
  | operand _ left right =>
      refine ⟨_, left, right, rfl, Content.noConfusion, ?_, nofun, nofun, rfl, defined⟩
      rintro _ ⟨⟩
      rfl
  | unary symbol apply right below result =>
      have present := below.isPresent
      exact ⟨_, _, right, rfl, Content.noConfusion, nofun, fun _ => present,
        fun two => absurd two (Nat.not_succ_le_self 1), present, defined⟩
  | binary symbol apply below alongside result =>
      have leftPresent := below.isPresent
      have rightPresent := alongside.isPresent
      refine ⟨_, _, _, rfl, Content.noConfusion, nofun, fun _ => leftPresent,
        fun _ => rightPresent, ?_, defined⟩
      rw [Tree.isComplete, leftPresent, rightPresent]
      rfl

/-! ### The editable leaf of a tree with a value -/

def UnarySingle (tree : Tree) : Prop :=
  ∀ path symbol apply left right, tree.InUse path →
    tree.subtree path = node (.operator (.unary symbol apply)) left right → right = absent

theorem Evaluates.descent {tree : Tree} {value : Float} (evaluates : tree.Evaluates value)
    (single : tree.UnarySingle) :
    ∃ path number left right, tree.InUse path ∧
      tree.Descent path (node (.operand (some number)) left right) := by
  induction evaluates with
  | operand value left right => exact ⟨[], value, left, right, .root _, .leaf left right rfl⟩
  | unary symbol apply right _ _ inductionHypothesis =>
      obtain rfl : right = absent := single [] symbol apply _ right (.root _) rfl
      obtain ⟨path, number, first, second, used, descent⟩ := inductionHypothesis
        fun path symbol apply left right used =>
          single (.left :: path) symbol apply left right (.left _ (Nat.le_refl 1) used)
      exact ⟨.left :: path, number, first, second, .left _ (Nat.le_refl 1) used,
        .left _ descent⟩
  | binary symbol apply _ _ _ _ inductionHypothesis =>
      obtain ⟨path, number, first, second, used, descent⟩ := inductionHypothesis
        fun path symbol apply left right used =>
          single (.right :: path) symbol apply left right (.right _ (Nat.le_refl 2) used)
      exact ⟨.right :: path, number, first, second, .right _ (Nat.le_refl 2) used,
        .right _ _ descent⟩

/-! ### Trees without a value -/

def Unusable (result : Option Float) : Prop :=
  result = none ∨ ∃ number, result = some number ∧ (number.isInf = true ∨ number.isNaN = true)

theorem isFinite_eq_false_iff (number : Float) :
    number.isFinite = false ↔ number.isInf = true ∨ number.isNaN = true := by
  change number.toModel.unpack.isFinite = false ↔
    number.toModel.unpack.isInf = true ∨ number.toModel.unpack.isNaN = true
  cases number.toModel.unpack with
  | infinity sign => exact iff_of_true rfl (.inl rfl)
  | notANumber => exact iff_of_true rfl (.inr rfl)
  | zero sign => exact iff_of_false nofun (not_or.mpr ⟨nofun, nofun⟩)
  | finite sign significand exponent positive =>
      exact iff_of_false nofun (not_or.mpr ⟨nofun, nofun⟩)

theorem unusable_of_finite? {result : Option Float} (refused : Binary64.finite? result = none) :
    Unusable result := by
  cases result with
  | none => exact .inl rfl
  | some number =>
      refine .inr ⟨number, rfl, (isFinite_eq_false_iff number).mp ?_⟩
      cases finite : number.isFinite with
      | false => rfl
      | true =>
          rw [Binary64.finite?, Option.filter_some, if_pos finite] at refused
          cases refused

/-- The children that the operator at the root uses have values, but the operator has no finite result for
them. -/
inductive Fails : Tree → Prop
  | unary (symbol : String) (apply : Float → Option Float) (right : Tree) {left : Tree}
      {operand : Float} : left.evaluate = some operand → Unusable (apply operand) →
      Fails (node (.operator (.unary symbol apply)) left right)
  | binary (symbol : String) (apply : Float → Float → Option Float) {left right : Tree}
      {leftOperand rightOperand : Float} : left.evaluate = some leftOperand →
      right.evaluate = some rightOperand → Unusable (apply rightOperand leftOperand) →
      Fails (node (.operator (.binary symbol apply)) left right)

def Stocked (tree : Tree) : Prop :=
  ∀ path, tree.InUse path → (tree.subtree path).isPresent = true →
    (tree.subtree path).isComplete = true ∧
    ∀ left right, tree.subtree path ≠ node (.operand none) left right

section
variable {content : Content} {left right : Tree} (stocked : (node content left right).Stocked)
include stocked

theorem stocked_left (filled : 1 ≤ content.arity) : left.Stocked :=
  fun path used => stocked (.left :: path) (.left right filled used)

theorem stocked_right (filled : 2 ≤ content.arity) : right.Stocked :=
  fun path used => stocked (.right :: path) (.right left filled used)

end

theorem Stocked.exists_fails {tree : Tree} (stocked : tree.Stocked) (present : tree.isPresent = true)
    (undefined : tree.evaluate = none) : ∃ path, tree.InUse path ∧ (tree.subtree path).Fails := by
  induction tree with
  | absent => cases present
  | node content left right leftHypothesis rightHypothesis =>
      obtain ⟨complete, set⟩ := stocked [] (.root _) rfl
      have leftFailing (filled : 1 ≤ content.arity) (leftPresent : left.isPresent = true)
          (missing : left.evaluate = none) :
          ∃ path, (node content left right).InUse path ∧
            ((node content left right).subtree path).Fails := by
        obtain ⟨path, used, fails⟩ := leftHypothesis (stocked_left stocked filled) leftPresent missing
        exact ⟨.left :: path, .left right filled used, fails⟩
      cases content with
      | blank => cases complete
      | operand value =>
          obtain rfl : value = none := undefined
          exact absurd rfl (set left right)
      | operator op =>
          cases op with
          | unary symbol apply =>
              cases found : left.evaluate with
              | none => exact leftFailing (Nat.le_refl 1) complete found
              | some operand =>
                  rw [Tree.evaluate, found] at undefined
                  exact ⟨[], .root _, .unary symbol apply right found
                    (unusable_of_finite? undefined)⟩
          | binary symbol apply =>
              obtain ⟨leftPresent, rightPresent⟩ := Bool.and_eq_true_iff.mp complete
              cases found : left.evaluate with
              | none => exact leftFailing (Nat.le_succ 1) leftPresent found
              | some leftOperand =>
                  cases rightFound : right.evaluate with
                  | none =>
                      obtain ⟨path, used, fails⟩ :=
                        rightHypothesis (stocked_right stocked (Nat.le_refl 2)) rightPresent rightFound
                      exact ⟨.right :: path, .right left (Nat.le_refl 2) used, fails⟩
                  | some rightOperand =>
                      rw [Tree.evaluate, found, rightFound] at undefined
                      exact ⟨[], .root _, .binary symbol apply found rightFound
                        (unusable_of_finite? undefined)⟩

/-- If a tree has a value, each place in use holds a whole node, and where unary operators have one child
only, the editable leaf is in use and is an operand with a value. If each node in use is complete and each
operand in use has a value, the tree is without a value only because an operator in use is without a finite
result for the values of its children. -/
theorem defined_value_needs_whole_tree (tree : Tree) :
    (tree.evaluate ≠ none →
      (∀ path, tree.InUse path → ∃ content left right,
        tree.subtree path = node content left right ∧ Whole content left right) ∧
      (tree.UnarySingle → ∃ path number left right, tree.InUse path ∧
        tree.editablePath? = some path ∧
        tree.editableLeaf? = some (node (.operand (some number)) left right))) ∧
    (tree.isPresent = true → tree.Stocked → tree.evaluate = none →
      ∃ path, tree.InUse path ∧ (tree.subtree path).Fails) := by
  refine ⟨fun defined => ?_, fun present stocked => stocked.exists_fails present⟩
  obtain ⟨value, evaluates⟩ := Option.ne_none_iff_exists'.mp defined
  rw [evaluate_eq_some_iff] at evaluates
  refine ⟨fun path used => ?_, fun single => ?_⟩
  · obtain ⟨part, partEvaluates⟩ := evaluates.part used
    exact partEvaluates.whole
  · obtain ⟨path, number, left, right, used, descent⟩ := evaluates.descent single
    have found : tree.editablePath? = some path := descent.editablePath?
    exact ⟨path, number, left, right, used, found, (descent.of_editablePath? found).2.1⟩

/-- A right child that a unary operator does not use hides the operand from the search. -/
example :
    let tree := node (.operator (.unary "√" some)) (.operand (some 4)) .blank
    tree.evaluate = some 4 ∧ tree.editablePath? = some [.right] := by decide +kernel

end DeskCalculator.Tree
