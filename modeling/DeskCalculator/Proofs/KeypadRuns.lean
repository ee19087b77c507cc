import DeskCalculator.Proofs.MemoryMode
import DeskCalculator.Proofs.TreeContents

/-! Runs of the calculator. Keys, the voice switch and pictures may follow each other in any way. All
that a key does to the session is one action of a session, or none, and which one it is depends only on
the memory key that waits. -/

namespace DeskCalculator

/-- A second goes by between two pictures, every frame without a negative side can be had, and all
characters are of one width. -/
def Moments.sample : Moments := fun place =>
  { now := .whole place
    frameFault? := fun width height =>
      if width < 0 ∨ height < 0 then some "negative dimensions are not allowed" else none
    textWidth := fun content _ _ _ => 20 * (content.length : Int) }

def Key.action? : Key → Option MemoryMode → Option Session.Action
  | .delete, _ => some .discard
  | .number value, some mode => some (mode.action (.number value))
  | .number value, none => some (.type (toString value).toList)
  | _, some _ => none
  | .memory _, none => none
  | .point, none => some .point
  | .sign, none => some .sign
  | .arithmetic key, none => some (.operator key.symbol)
  | .finish, none => some .finish
  | .unknown, none => none

/-- Only number keys type, and what they type is the text of their number. -/
theorem Key.number_of_action? {key : Key} {mode : Option MemoryMode} {typed : List Char}
    (acts : key.action? mode = some (.type typed)) :
    ∃ number : Int, key = .number number ∧ typed = (toString number).toList := by
  cases mode with
  | some mode =>
      cases key with
      | number value => cases mode <;> cases acts
      | _ => cases acts
  | none =>
      cases key with
      | number value =>
          cases acts
          exact ⟨value, rfl, rfl⟩
      | _ => cases acts

/-- Whether a key is accepted. Clearing a slot always is, also where the number is that of no slot. -/
def Key.answer (session : Session) (mode : Option MemoryMode) (key : Key) : Bool :=
  match key.action? mode with
  | none => mode.isNone && key.memory?.isSome
  | some (.clear _) => true
  | some action => session.accepts action

namespace Keypad

inductive Event where
  | key (identifier : CodeText)
  | voice
  | picture (moment : Moment)

def meet (keypad : Keypad) : Event → Keypad
  | .key identifier => keypad.pressed identifier
  | .voice => keypad.toggleVoice.keypad
  | .picture moment => (keypad.drawing moment).1

def meetAll (keypad : Keypad) (events : List Event) : Keypad :=
  events.foldl meet keypad

/-- An invariant of single events is one of whole runs. -/
theorem meetAll_keeps (Holds : Keypad → Prop)
    (kept : ∀ keypad event, Holds keypad → Holds (keypad.meet event))
    (keypad : Keypad) (start : Holds keypad) (events : List Event) :
    Holds (keypad.meetAll events) := by
  induction events generalizing keypad with
  | nil => exact start
  | cons event rest inductionHypothesis =>
      exact inductionHypothesis (keypad.meet event) (kept keypad event start)

/-! ### The session -/

theorem pressPoint_session (keypad : Keypad) :
    keypad.pressPoint.keypad.session = keypad.session.typePoint.1 ∧
    keypad.pressPoint.accepted = keypad.session.typePoint.2.isSome := by
  cases answered : keypad.session.typePoint with
  | mk session answer =>
      cases answer with
      | some characters =>
          simp only [pressPoint, answered]
          exact ⟨rfl, rfl⟩
      | none =>
          have refused := Session.typePoint_refused (congrArg Prod.snd answered)
          rw [answered] at refused
          simp only [pressPoint, answered]
          exact ⟨refused.symm, rfl⟩

theorem pressArithmetic_session (keypad : Keypad) (key : ArithmeticKey) :
    (keypad.pressArithmetic key).keypad.session = (keypad.session.pressOperator key.symbol).1 ∧
    (keypad.pressArithmetic key).accepted =
      (keypad.session.pressOperator key.symbol).2.isSome := by
  cases answered : keypad.session.pressOperator key.symbol with
  | mk session answer =>
      simp only [pressArithmetic, answered]
      cases answer <;> exact ⟨rfl, rfl⟩

theorem operateMemory_accepted (keypad : Keypad) (mode : MemoryMode) (number : Int) :
    (keypad.operateMemory mode number).accepted =
      Key.answer keypad.session (some mode) (.number number) := by
  cases mode with
  | clear => rfl
  | add =>
      change _ = (keypad.session.store (.number number)).answer
      cases stored : (keypad.session.store (.number number)).answer <;>
        simp only [operateMemory, stored] <;> rfl
  | fetch =>
      change _ = (keypad.session.fetch (.number number)).answer.isSome
      cases found : (keypad.session.fetch (.number number)).answer <;>
        simp only [operateMemory, found] <;> rfl

/-- What a key does to the session, and its answer, do not depend on the picture or the speech. -/
theorem press_session (keypad : Keypad) (key : Key) :
    (keypad.press key).keypad.session =
      keypad.session.run (key.action? keypad.mode).toList ∧
    (keypad.press key).accepted = key.answer keypad.session keypad.mode := by
  cases waiting : keypad.mode with
  | some mode =>
      cases key with
      | delete =>
          rw [press_delete]
          exact ⟨rfl, rfl⟩
      | number value =>
          rw [press_slot waiting]
          exact ⟨(keypad.operateMemory_keypad mode value).2, keypad.operateMemory_accepted mode value⟩
      | _ =>
          rw [press_waiting waiting rfl]
          exact ⟨rfl, rfl⟩
  | none =>
      cases key with
      | delete =>
          rw [press_delete]
          exact ⟨rfl, rfl⟩
      | number value =>
          rw [press_number waiting]
          exact (keypad.typeNumber_keypad value).2
      | point =>
          simp only [press, waiting]
          exact keypad.pressPoint_session
      | arithmetic key =>
          simp only [press, waiting]
          exact keypad.pressArithmetic_session key
      | _ =>
          simp only [press, waiting]
          exact ⟨rfl, rfl⟩

theorem session_pressed (keypad : Keypad) (identifier : CodeText) :
    ∃ actions, (keypad.pressed identifier).session = keypad.session.run actions := by
  unfold pressed process
  cases Key.ofIdentifier identifier with
  | error error => exact ⟨[], rfl⟩
  | ok key => exact ⟨_, (keypad.press_session key).1⟩

theorem session_meet (keypad : Keypad) (event : Event) :
    ∃ actions, (keypad.meet event).session = keypad.session.run actions := by
  cases event with
  | key identifier => exact keypad.session_pressed identifier
  | voice => exact ⟨[], rfl⟩
  | picture moment => exact ⟨[], rfl⟩

/-- The session of a calculator that ran is a session that ran. -/
theorem session_meetAll (settings : Settings) (source : SpeechSource) (events : List Event) :
    ∃ actions, ((start settings source).1.meetAll events).session =
      (Session.start .standard settings.maxInputLength settings.verbose).run actions := by
  refine meetAll_keeps (fun keypad => ∃ actions, keypad.session =
    (Session.start .standard settings.maxInputLength settings.verbose).run actions) ?_ _ ⟨[], rfl⟩ _
  rintro keypad event ⟨earlier, reached⟩
  obtain ⟨later, met⟩ := keypad.session_meet event
  refine ⟨earlier ++ later, ?_⟩
  rw [met, reached, Session.run_append]

theorem session_admitted (settings : Settings) (source : SpeechSource) (events : List Event) :
    ((start settings source).1.meetAll events).session.Admitted .standard := by
  obtain ⟨actions, reached⟩ := session_meetAll settings source events
  rw [reached]
  exact Session.reachable_admitted _ _ _ actions

end Keypad
end DeskCalculator
