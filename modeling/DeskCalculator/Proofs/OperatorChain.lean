import DeskCalculator.Proofs.NumberEntry

/-! Chains of operators typed without a pause: a number, then any row of binary operators with a
number each and of square roots. The tree nests to the left and its value is the left fold of the
operators, whatever their usual precedence. -/

namespace DeskCalculator

inductive BinaryOperation where
  | sum
  | difference
  | product
  | quotient
deriving DecidableEq, Repr

namespace BinaryOperation

def symbol : BinaryOperation → String
  | sum => "+"
  | difference => "−"
  | product => "×"
  | quotient => "÷"

def names : BinaryOperation → List String
  | sum => ["+"]
  | difference => ["−", "-"]
  | product => ["×", "*"]
  | quotient => ["÷", "/"]

def result (left right : Float) : BinaryOperation → Option Float
  | sum => some (left + right)
  | difference => some (left - right)
  | product => some (left * right)
  | quotient => if right == 0 then none else some (left / right)

def operator (operation : BinaryOperation) : Operator :=
  .binary operation.symbol fun right left => operation.result left right

theorem lookup?_standard (operation : BinaryOperation) (name : String)
    (named : name ∈ operation.names) :
    Registry.standard.lookup? name = some operation.operator := by
  cases operation <;> simp only [names, List.mem_cons, List.not_mem_nil, or_false] at named
  case sum =>
    subst named
    rfl
  all_goals rcases named with rfl | rfl <;> rfl

end BinaryOperation

inductive ChainStep where
  | binary (operation : BinaryOperation) (name : String) (number : List Char)
  | root
deriving DecidableEq, Repr

namespace ChainStep

def operator : ChainStep → Operator
  | binary operation _ _ => operation.operator
  | root => .unary "√" Operator.squareRoot

def name : ChainStep → String
  | binary _ name _ => name
  | root => "√"

def right : ChainStep → Tree
  | binary _ _ number => .operand (Numeral.finite? number)
  | root => .absent

def keys : ChainStep → List Session.Action
  | binary _ name number => .operator name :: Session.typing number
  | root => [.operator "√"]

def Typable (limit : Int) : ChainStep → Prop
  | binary operation name number => name ∈ operation.names ∧ Session.Typable limit number
  | root => True

/-- The whole tree so far becomes the left child. -/
def wrap (tree : Tree) (step : ChainStep) : Tree :=
  .node (.operator step.operator) tree step.right

/-- The value so far is the left operand; what is infinite or undefined is no value. -/
def value (left : Option Float) : ChainStep → Option Float
  | binary operation _ number =>
    left.bind fun left =>
      (Numeral.finite? number).bind fun right => Binary64.finite? (operation.result left right)
  | root => left.bind fun left => Binary64.finite? (Operator.squareRoot left)

theorem lookup?_standard {limit : Int} {step : ChainStep} (typable : step.Typable limit) :
    Registry.standard.lookup? step.name = some step.operator := by
  cases step with
  | binary operation name number => exact operation.lookup?_standard name typable.1
  | root => rfl

theorem evaluate_wrap (tree : Tree) (step : ChainStep) :
    (step.wrap tree).evaluate = step.value tree.evaluate := by
  cases step with
  | binary operation name number =>
      simp only [wrap, operator, right, BinaryOperation.operator, Tree.evaluate, Tree.operand, value]
      cases tree.evaluate <;> cases Numeral.finite? number <;> rfl
  | root =>
      simp only [wrap, operator, right, Tree.evaluate, value]
      cases tree.evaluate <;> rfl

theorem evaluate_wrapAll (tree : Tree) (steps : List ChainStep) :
    (steps.foldl wrap tree).evaluate = steps.foldl value tree.evaluate := by
  induction steps generalizing tree with
  | nil => rfl
  | cons step rest inductionHypothesis =>
      rw [List.foldl_cons, List.foldl_cons, inductionHypothesis, evaluate_wrap]

theorem complete_wrap {tree : Tree} (whole : tree.Complete) (step : ChainStep) :
    (step.wrap tree).Complete := by
  cases step with
  | binary operation name number => exact .binary _ _ whole (.operand _)
  | root => exact .unary _ _ whole

end ChainStep

namespace Session

theorem press_step {session : Session} (standard : session.registry = .standard) {value : Float}
    (defined : session.tree.evaluate = some value) {step : ChainStep}
    (typable : step.Typable session.inputLimit) :
    session.Leads [.operator step.name] (session.wrapped step.operator) := by
  have known : session.registry.lookup? step.name = some step.operator := by
    rw [standard]
    exact ChainStep.lookup?_standard typable
  have applied : session.pressOperator step.name =
      (session.wrapped step.operator, some step.operator.symbol) := by
    rw [pressOperator, known]
    exact session.applyOperator_of_evaluate step.operator defined
  apply Leads.single
  · rw [accepts, applied]
    rfl
  · rw [act, applied]

theorem wrapped_enter (session : Session) (whole : session.tree.Complete)
    (operation : BinaryOperation) (name : String) (number : List Char) :
    (session.wrapped operation.operator).enter number =
      { session with
        entry := some number
        tree := ChainStep.wrap session.tree (.binary operation name number) } := by
  have placed : Tree.graft (.node (.operator operation.operator) session.tree .absent)
      (.operand (Numeral.finite? number)) =
        ChainStep.wrap session.tree (.binary operation name number) :=
    Tree.graft_half _ _ whole.isPresent _
  simp only [enter, wrapped, placed]

theorem run_step {session : Session} (standard : session.registry = .standard)
    (whole : session.tree.Complete) {value : Float} (defined : session.tree.evaluate = some value)
    {step : ChainStep} (typable : step.Typable session.inputLimit) :
    ∃ entry, session.Leads step.keys
      { session with entry := entry, tree := step.wrap session.tree } := by
  have pressed := press_step standard defined typable
  cases step with
  | root => exact ⟨none, pressed⟩
  | binary operation name number =>
      have growing : (session.wrapped operation.operator).tree.Growing :=
        .of_operator operation.operator whole
      have typed := typing_idle growing rfl typable.2
      rw [wrapped_enter session whole operation name] at typed
      exact ⟨some number, pressed.append typed⟩

/-- A chain goes on as long as the tree so far has a value; only its last step may lack one. -/
theorem run_steps (session : Session) (standard : session.registry = .standard)
    (whole : session.tree.Complete) (steps : List ChainStep)
    (typable : ∀ step ∈ steps, step.Typable session.inputLimit)
    (defined : ∀ count < steps.length,
      ((steps.take count).foldl ChainStep.value session.tree.evaluate).isSome = true) :
    ∃ final, session.Leads (steps.flatMap ChainStep.keys) final ∧
      final.tree = steps.foldl ChainStep.wrap session.tree := by
  induction steps generalizing session with
  | nil => exact ⟨session, .nil session, rfl⟩
  | cons step rest inductionHypothesis =>
      obtain ⟨value, now⟩ := Option.isSome_iff_exists.mp (defined 0 (Nat.succ_pos rest.length))
      obtain ⟨entry, stepped⟩ := run_step standard whole now (typable step List.mem_cons_self)
      let next : Session := { session with entry := entry, tree := step.wrap session.tree }
      have restDefined : ∀ count < rest.length,
          ((rest.take count).foldl ChainStep.value next.tree.evaluate).isSome = true := by
        intro count before
        have later := defined (count + 1) (Nat.succ_lt_succ before)
        rw [List.take_succ_cons, List.foldl_cons, ← ChainStep.evaluate_wrap] at later
        exact later
      obtain ⟨final, followed, built⟩ :=
        inductionHypothesis next standard (ChainStep.complete_wrap whole step)
          (fun other member => typable other (List.mem_cons_of_mem step member)) restDefined
      exact ⟨final, stepped.append followed, built⟩

/-- A chain typed into a blank session. Every key is accepted, each step has the whole tree before
it as its left child, and the value is that of the steps applied from left to right. -/
theorem keys_build_left_fold (session : Session) (standard : session.registry = .standard)
    (blank : session.tree = .blank) (idle : session.entry = none)
    (first : List Char) (steps : List ChainStep)
    (firstTypable : Typable session.inputLimit first)
    (typable : ∀ step ∈ steps, step.Typable session.inputLimit)
    (defined : ∀ count < steps.length,
      ((steps.take count).foldl ChainStep.value (Numeral.finite? first)).isSome = true) :
    let keys := typing first ++ steps.flatMap ChainStep.keys
    session.acceptsAll keys = true ∧
      (session.run keys).tree = steps.foldl ChainStep.wrap (.operand (Numeral.finite? first)) ∧
      (session.run keys).tree.evaluate =
        steps.foldl ChainStep.value (Numeral.finite? first) := by
  intro keys
  have growing : session.tree.Growing := by
    rw [blank]
    exact .blank
  have firstTyped : session.Leads (typing first) (session.enter first) :=
    typing_idle growing idle firstTypable
  have opened : (session.enter first).tree = .operand (Numeral.finite? first) := by
    rw [enter, blank]
    rfl
  have whole : (session.enter first).tree.Complete := by
    rw [opened]
    exact .operand _
  obtain ⟨final, followed, built⟩ :=
    run_steps (session.enter first) standard whole steps typable (by rw [opened]; exact defined)
  have led : session.Leads keys final := firstTyped.append followed
  rw [opened] at built
  refine ⟨led.accepted, ?_, ?_⟩
  · rw [led.reached, built]
  · rw [led.reached, built, ChainStep.evaluate_wrapAll]
    rfl

/-- Twelve and four, and the root of their sum. -/
theorem keys_build_root_of_sum :
    let session := Session.start .standard 12 false
    let steps := [ChainStep.binary .sum "+" ['4'], .root]
    let keys := typing ['1', '2'] ++ steps.flatMap ChainStep.keys
    session.acceptsAll keys = true ∧ (session.run keys).tree.evaluate = some 4 := by
  intro session steps keys
  have firstTypable : Typable 12 ['1', '2'] :=
    ⟨by simp, ⟨'1', by simp⟩, by decide, by decide⟩
  have typable : ∀ step ∈ steps, step.Typable 12 := by
    intro step member
    rcases List.mem_cons.mp member with rfl | later
    · exact ⟨by decide, by simp, ⟨'4', by simp⟩, by decide, by decide⟩
    · cases List.mem_singleton.mp later
      trivial
  obtain ⟨accepted, _, value⟩ :=
    keys_build_left_fold session rfl rfl rfl ['1', '2'] steps firstTypable typable
      (by decide +kernel)
  have folded : steps.foldl ChainStep.value (Numeral.finite? ['1', '2']) = some 4 := by
    decide +kernel
  exact ⟨accepted, value.trans folded⟩

end Session
end DeskCalculator
