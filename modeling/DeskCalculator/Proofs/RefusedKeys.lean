import DeskCalculator.Proofs.KeypadRuns

/-! Keys that are ignored. They keep the expression and the memory bank, and the number being typed as
well, except that an ignored operator ends it. Whatever is pressed later does what it would have done
after the end of the number alone. -/

namespace DeskCalculator.Keypad

/-! ### Calculators that differ in their picture and their speech only -/

structure Agrees (first second : Keypad) : Prop where
  session : first.session = second.session
  mode : first.mode = second.mode

theorem Agrees.press {first second : Keypad} (agrees : first.Agrees second) (key : Key) :
    (first.press key).keypad.Agrees (second.press key).keypad ∧
    (first.press key).accepted = (second.press key).accepted := by
  refine ⟨⟨?_, ?_⟩, ?_⟩
  · rw [(first.press_session key).1, (second.press_session key).1, agrees.session, agrees.mode]
  · rw [press_mode, press_mode, agrees.mode]
  · rw [(first.press_session key).2, (second.press_session key).2, agrees.session, agrees.mode]

theorem Agrees.pressed {first second : Keypad} (agrees : first.Agrees second)
    (identifier : CodeText) : (first.pressed identifier).Agrees (second.pressed identifier) := by
  unfold Keypad.pressed process
  cases Key.ofIdentifier identifier with
  | error error => exact agrees
  | ok key => exact (agrees.press key).1

theorem Agrees.pressAll {first second : Keypad} (agrees : first.Agrees second)
    (identifiers : List CodeText) :
    (first.pressAll identifiers).Agrees (second.pressAll identifiers) := by
  induction identifiers generalizing first second with
  | nil => exact agrees
  | cons identifier rest inductionHypothesis => exact inductionHypothesis (agrees.pressed identifier)

theorem Agrees.process {first second : Keypad} (agrees : first.Agrees second)
    (identifier : CodeText) :
    (first.process identifier).map Handled.accepted =
      (second.process identifier).map Handled.accepted := by
  unfold Keypad.process
  cases Key.ofIdentifier identifier with
  | error error => rfl
  | ok key => exact congrArg Except.ok (agrees.press key).2

/-! ### Ignored keys -/

/-- The number ends with an operator that no memory key holds back, and a memory key stops waiting with
the number of a slot. -/
def afterIgnored (keypad : Keypad) : Key → Keypad
  | .arithmetic _ =>
    if keypad.mode = none then { keypad with session := keypad.session.endNumber } else keypad
  | .number _ => { keypad with mode := none }
  | _ => keypad

theorem afterIgnored_operator {keypad : Keypad} (idle : keypad.mode = none)
    (operator : ArithmeticKey) :
    (keypad.afterIgnored (.arithmetic operator)).session = keypad.session.endNumber := by
  rw [afterIgnored, if_pos idle]

theorem afterIgnored_other {keypad : Keypad} {key : Key}
    (other : (∀ operator, key ≠ .arithmetic operator) ∨ keypad.mode ≠ none) :
    (keypad.afterIgnored key).session = keypad.session := by
  cases key with
  | arithmetic operator =>
      have held : keypad.mode ≠ none := other.resolve_left fun different => different operator rfl
      rw [afterIgnored, if_neg held]
  | _ => rfl

theorem afterIgnored_keeps (keypad : Keypad) (key : Key) :
    (keypad.afterIgnored key).session.tree = keypad.session.tree ∧
    (keypad.afterIgnored key).session.memory = keypad.session.memory := by
  cases key with
  | arithmetic operator =>
      by_cases idle : keypad.mode = none
      · rw [afterIgnored_operator idle]
        exact ⟨rfl, rfl⟩
      · rw [afterIgnored_other (.inr idle)]
        exact ⟨rfl, rfl⟩
  | _ => exact ⟨rfl, rfl⟩

theorem action_ignored {session : Session} {key : Key} {mode : Option MemoryMode}
    {action : Session.Action} (acts : key.action? mode = some action)
    (ignored : key.answer session mode = false) (other : ∀ name, action ≠ .operator name) :
    session.act action = session := by
  cases action with
  | clear request =>
      simp only [Key.answer, acts] at ignored
      cases ignored
  | operator name => exact absurd rfl (other name)
  | _ =>
      simp only [Key.answer, acts] at ignored
      exact Session.act_refused ignored other

theorem operator_ignored {session : Session} {key : ArithmeticKey}
    (ignored : (Key.arithmetic key).answer session none = false) :
    session.act (.operator key.symbol) = session.endNumber ∧
      ((session.registry.lookup? key.symbol).isSome = true → session.tree.evaluate = none) :=
  Session.applyOperator_refused
    (Option.isNone_iff_eq_none.mp (Option.isSome_eq_false_iff.mp ignored))

theorem press_ignored {keypad : Keypad} {key : Key}
    (ignored : (keypad.press key).accepted = false) :
    (keypad.press key).keypad.Agrees (keypad.afterIgnored key) := by
  have session := (keypad.press_session key).1
  have mode := keypad.press_mode key
  rw [(keypad.press_session key).2] at ignored
  cases waiting : keypad.mode with
  | some memoryMode =>
      rw [waiting] at session mode ignored
      cases key with
      | number value =>
          have notOperator (name : String) : memoryMode.action (.number value) ≠ .operator name := by
            cases memoryMode <;> nofun
          exact ⟨session.trans (action_ignored rfl ignored notOperator), mode⟩
      | delete => cases ignored
      | arithmetic operator =>
          have held : keypad.mode ≠ none := by simp [waiting]
          rw [afterIgnored, if_neg held]
          exact ⟨session, mode.trans waiting.symm⟩
      | _ => exact ⟨session, mode.trans waiting.symm⟩
  | none =>
      rw [waiting] at session mode ignored
      cases key with
      | number value => exact ⟨session.trans (action_ignored rfl ignored nofun), mode⟩
      | point => exact ⟨session.trans (action_ignored rfl ignored nofun), mode.trans waiting.symm⟩
      | arithmetic operator =>
          rw [afterIgnored, if_pos waiting]
          exact ⟨session.trans (operator_ignored ignored).1, mode.trans waiting.symm⟩
      | unknown => exact ⟨session, mode.trans waiting.symm⟩
      | _ => cases ignored

/-- Any keys, voice switches and pictures from a new calculator on, and then a key that is ignored. It
keeps the expression and the memory bank. It keeps the session as a whole, unless it is an operator
that no memory key holds back: this one finds an expression without a value, and ends the number being
typed. All keys after it do, and are answered, what they would have been after the end of that number,
or of the waiting of a memory key whose operation failed, alone. -/
theorem ignored_key_keeps_expression (settings : Settings) (source : SpeechSource)
    (events : List Event) (identifier : CodeText) (handled : Handled)
    (processed : ((start settings source).1.meetAll events).process identifier = .ok handled)
    (ignored : handled.accepted = false) :
    let keypad := (start settings source).1.meetAll events
    ∃ key, Key.ofIdentifier identifier = .ok key ∧
      handled.keypad.session.tree = keypad.session.tree ∧
      handled.keypad.session.memory = keypad.session.memory ∧
      (((∀ operator, key ≠ .arithmetic operator) ∨ keypad.mode ≠ none) →
        handled.keypad.session = keypad.session) ∧
      ((∃ operator, key = .arithmetic operator) ∧ keypad.mode = none →
        handled.keypad.session = keypad.session.endNumber ∧
        keypad.session.tree.evaluate = none) ∧
      ∀ later next,
        (handled.keypad.pressAll later).session =
          ((keypad.afterIgnored key).pressAll later).session ∧
        (handled.keypad.pressAll later).mode = ((keypad.afterIgnored key).pressAll later).mode ∧
        ((handled.keypad.pressAll later).process next).map Handled.accepted =
          (((keypad.afterIgnored key).pressAll later).process next).map Handled.accepted := by
  intro keypad
  have admitted : keypad.session.Admitted .standard := session_admitted settings source events
  unfold process at processed
  cases named : Key.ofIdentifier identifier with
  | error error =>
      rw [named] at processed
      cases processed
  | ok key =>
      rw [named] at processed
      cases processed
      have agrees := press_ignored ignored
      have session := agrees.session
      have kept := keypad.afterIgnored_keeps key
      refine ⟨key, rfl, ?_, ?_, ?_, ?_, ?_⟩
      · rw [session, kept.1]
      · rw [session, kept.2]
      · intro other
        rw [session, afterIgnored_other other]
      · rintro ⟨⟨operator, rfl⟩, idle⟩
        rw [(keypad.press_session _).2, idle] at ignored
        have known : (keypad.session.registry.lookup? operator.symbol).isSome = true := by
          rw [admitted.knows]
          cases operator <;> rfl
        exact ⟨session.trans (afterIgnored_operator idle operator),
          (operator_ignored ignored).2 known⟩
      · intro later next
        have followed := agrees.pressAll later
        exact ⟨followed.session, followed.mode, followed.process next⟩

/-- A multiplication that comes after the sign of a number is ignored, and yet the number ends. -/
theorem multiply_after_sign_keeps_expression :
    let keypad := (start {} fun _ => .error "").1.meetAll [.key "negate"]
    let handled := keypad.press (.arithmetic .multiply)
    keypad.process "multiply" = .ok handled ∧ handled.accepted = false ∧
      handled.keypad.session.tree = keypad.session.tree ∧
      handled.keypad.session.memory = keypad.session.memory ∧
      handled.keypad.session = keypad.session.endNumber := by
  intro keypad handled
  have processed : keypad.process "multiply" = .ok handled := rfl
  have ignored : handled.accepted = false := rfl
  obtain ⟨key, named, tree, memory, _, ended, _⟩ :=
    ignored_key_keeps_expression {} _ [.key "negate"] "multiply" handled processed ignored
  have multiply : key = .arithmetic .multiply := by
    cases named
    rfl
  exact ⟨processed, ignored, tree, memory, (ended ⟨⟨.multiply, multiply⟩, rfl⟩).1⟩

/-- The digit after it starts a new number instead of going on with the one that has the sign. -/
theorem ignored_multiply_ends_number :
    let keypad := (start {} fun _ => .error "").1.meetAll [.key "negate"]
    let handled := keypad.press (.arithmetic .multiply)
    keypad.process "multiply" = .ok handled ∧ handled.accepted = false ∧
      keypad.session.entry = some ['-'] ∧ handled.keypad.session.entry = none ∧
      (keypad.pressed "num_5").session.entry = some ['-', '5'] ∧
      (handled.keypad.pressed "num_5").session.entry = some ['5'] :=
  ⟨rfl, rfl, rfl, rfl, rfl, rfl⟩

end DeskCalculator.Keypad
