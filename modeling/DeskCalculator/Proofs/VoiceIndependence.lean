import DeskCalculator.Proofs.KeyComments
import DeskCalculator.Proofs.RefusedKeys

/-! Speech has no part in the calculation. Two calculators that differ in their speech, its settings and its
engines answer the same keys alike, whatever is switched on or off and whatever their engines fail at. -/

namespace DeskCalculator

def Screen.withoutMessage (screen : Screen) : Screen :=
  { screen with feedback := .none }

theorem Screen.withoutMessage_showing (screen : Screen) (comment? : Option Comment) :
    (screen.showing comment?).withoutMessage = screen.withoutMessage := by
  cases comment? <;> rfl

/-- A message does not depend on the one before it. -/
theorem Screen.feedback_showing {first second : Screen}
    (window : first.withoutMessage = second.withoutMessage) (comment : Comment) :
    (first.showing (some comment)).feedback = (second.showing (some comment)).feedback := by
  have duration := congrArg feedbackDuration window
  change first.feedbackDuration = second.feedbackDuration at duration
  simp only [showing, announce, duration]

namespace Keypad

/-! ### Steps -/

/-- A key, the voice switch or a picture; or else the speech goes on by itself, in any way at all. -/
inductive Step where
  | event (event : Event)
  | speech (change : Speech → Speech)

def Step.identifier? : Step → Option CodeText
  | event (.key identifier) => some identifier
  | _ => none

def take (keypad : Keypad) : Step → Keypad
  | .event event => keypad.meet event
  | .speech change => { keypad with speech := change keypad.speech }

def takeAll (keypad : Keypad) (steps : List Step) : Keypad :=
  steps.foldl take keypad

/-! ### Calculators that differ in their speech and in the message of their window only -/

structure Matches (first second : Keypad) : Prop extends Agrees first second where
  window : first.screen.withoutMessage = second.screen.withoutMessage

theorem Matches.symm {first second : Keypad} (same : first.Matches second) :
    second.Matches first :=
  ⟨⟨same.session.symm, same.mode.symm⟩, same.window.symm⟩

theorem Matches.trans {first second third : Keypad} (same : first.Matches second)
    (further : second.Matches third) : first.Matches third :=
  ⟨⟨same.session.trans further.session, same.mode.trans further.mode⟩,
    same.window.trans further.window⟩

theorem Matches.pressed {first second : Keypad} (same : first.Matches second)
    (identifier : CodeText) : (first.pressed identifier).Matches (second.pressed identifier) := by
  refine ⟨same.toAgrees.pressed identifier, ?_⟩
  unfold Keypad.pressed process
  cases Key.ofIdentifier identifier with
  | error error => exact same.window
  | ok key =>
      change (first.press key).keypad.screen.withoutMessage =
        (second.press key).keypad.screen.withoutMessage
      rw [(first.press_commented key).screen, (second.press_commented key).screen,
        Screen.withoutMessage_showing, Screen.withoutMessage_showing, same.window]

theorem take_other (keypad : Keypad) {step : Step} (other : step.identifier? = none) :
    (keypad.take step).Matches keypad := by
  cases step with
  | speech change => exact ⟨⟨rfl, rfl⟩, rfl⟩
  | event event =>
      cases event with
      | key identifier => cases other
      | voice => exact ⟨⟨rfl, rfl⟩, rfl⟩
      | picture moment =>
          refine ⟨⟨rfl, rfl⟩, ?_⟩
          change (keypad.drawing moment).1.screen.withoutMessage = _
          unfold drawing Screen.draw
          dsimp only
          split <;> rfl

/-- Only the keys matter. -/
theorem Matches.takeAll {first second : Keypad} (same : first.Matches second) (steps : List Step) :
    (first.takeAll steps).Matches (second.pressAll (steps.filterMap Step.identifier?)) := by
  induction steps generalizing first second with
  | nil => exact same
  | cons step rest inductionHypothesis =>
      cases pressed : step.identifier? with
      | none =>
          rw [List.filterMap_cons_none pressed]
          exact inductionHypothesis ((first.take_other pressed).trans same)
      | some identifier =>
          rw [List.filterMap_cons_some pressed]
          have isKey : first.take step = first.pressed identifier := by
            cases step with
            | speech change => cases pressed
            | event event =>
                cases event with
                | key name =>
                    cases pressed
                    rfl
                | _ => cases pressed
          apply inductionHypothesis
          rw [isKey]
          exact same.pressed identifier

structure HandledAlike (first second : Keypad) (key : Key) (one two : Handled) : Prop where
  accepted : one.accepted = two.accepted
  session : one.keypad.session = two.keypad.session
  mode : one.keypad.mode = two.keypad.mode
  firstScreen : one.keypad.screen = first.screen.showing (key.comment? first.session first.mode)
  secondScreen : two.keypad.screen = second.screen.showing (key.comment? first.session first.mode)
  message : (key.comment? first.session first.mode).isSome = true →
    one.keypad.screen.feedback = two.keypad.screen.feedback

theorem Matches.press {first second : Keypad} (same : first.Matches second) (key : Key) :
    HandledAlike first second key (first.press key) (second.press key) := by
  obtain ⟨⟨session, mode⟩, accepted⟩ := same.toAgrees.press key
  have firstScreen := (first.press_commented key).screen
  have secondScreen := (second.press_commented key).screen
  rw [← same.session, ← same.mode] at secondScreen
  refine ⟨accepted, session, mode, firstScreen, secondScreen, fun shown => ?_⟩
  obtain ⟨comment, told⟩ := Option.isSome_iff_exists.mp shown
  rw [firstScreen, secondScreen, told]
  exact Screen.feedback_showing same.window comment

/-- Two calculators whose settings differ in speech only, each with engines of its own that may fail at
any call, after the same keys and whatever voice switches, pictures and speech in between. They have
the same session and the same memory key waiting. They process every key alike, with the same answer and
the same message, and speech makes none of them an error. -/
theorem voice_never_changes_results (settings : Settings) (enabled : Bool) (volume : Number)
    (rate : Int) (language : CodeText) (firstSource secondSource : SpeechSource)
    (firstSteps secondSteps : List Step)
    (sameKeys : firstSteps.filterMap Step.identifier? = secondSteps.filterMap Step.identifier?) :
    let voiced := { settings with
      voiceEnabled := enabled, voiceVolume := volume, voiceRate := rate, voiceLanguage := language }
    let first := (start settings firstSource).1.takeAll firstSteps
    let second := (start voiced secondSource).1.takeAll secondSteps
    (first.session = second.session ∧ first.mode = second.mode) ∧
    (∀ keypad : Keypad, keypad.toggleVoice.keypad.Matches keypad) ∧
    (∀ entry ∈ Key.layout, Key.ofIdentifier entry.1 = .ok entry.2) ∧
    (∀ identifier error, Key.ofIdentifier identifier = .error error →
      first.process identifier = .error error ∧ second.process identifier = .error error) ∧
    ∀ identifier key, Key.ofIdentifier identifier = .ok key →
      ∃ one two, first.process identifier = .ok one ∧ second.process identifier = .ok two ∧
        HandledAlike first second key one two := by
  intro voiced first second
  have started : (start settings firstSource).1.Matches (start voiced secondSource).1 :=
    ⟨⟨rfl, rfl⟩, rfl⟩
  have again : (start voiced secondSource).1.Matches (start voiced secondSource).1 :=
    ⟨⟨rfl, rfl⟩, rfl⟩
  have same : first.Matches second := by
    have firstKeys := started.takeAll firstSteps
    rw [sameKeys] at firstKeys
    exact firstKeys.trans (again.takeAll secondSteps).symm
  refine ⟨⟨same.session, same.mode⟩, ?_, Key.ofIdentifier_layout, ?_, ?_⟩
  · intro keypad
    have noKey : (Step.event .voice).identifier? = none := rfl
    exact keypad.take_other noKey
  · intro identifier error failed
    simp only [process, failed]
    exact ⟨rfl, rfl⟩
  · intro identifier key named
    exact ⟨first.press key, second.press key, process_ofIdentifier named first,
      process_ofIdentifier named second, same.press key⟩

/-- A number is stored, with and without an engine that fails whenever it is called. -/
theorem voice_never_changes_stored_number :
    let failing : SpeechEngine :=
      ⟨.error "no voices", fun _ => some "not set", fun _ _ => some "not said"⟩
    let first := (start {} fun _ => .error "no engine").1.takeAll
      [.event .voice, .event (.key "num_3"), .event (.key "mem_add")]
    let second := (start { voiceEnabled := false, voiceRate := 90 } fun _ => .ok failing).1.takeAll
      [.event (.key "num_3"), .event .voice, .event (.picture (Moments.sample 0)),
        .event (.key "mem_add"), .speech fun speech => { speech with enabled := true }]
    ∃ one two, first.process "num_7" = .ok one ∧ second.process "num_7" = .ok two ∧
      one.keypad.session.memory.occupied = [7] ∧
      one.keypad.session = two.keypad.session ∧
      one.keypad.screen.feedback.message = "M7 GUARDADO" ∧
      two.keypad.screen.feedback = one.keypad.screen.feedback := by
  intro failing first second
  obtain ⟨_, _, _, _, alike⟩ := voice_never_changes_results {} false (.real 0.8) 90 "es"
    (fun _ => .error "no engine") (fun _ => .ok failing)
    [.event .voice, .event (.key "num_3"), .event (.key "mem_add")]
    [.event (.key "num_3"), .event .voice, .event (.picture (Moments.sample 0)),
      .event (.key "mem_add"), .speech fun speech => { speech with enabled := true }] rfl
  obtain ⟨one, two, firstProcessed, secondProcessed, handled⟩ := alike "num_7" (.number 7) rfl
  have pressed : one = first.press (.number 7) := (Except.ok.inj firstProcessed).symm
  refine ⟨one, two, firstProcessed, secondProcessed, ?_, handled.session, ?_, ?_⟩
  · rw [pressed]
    decide +kernel
  · rw [pressed]
    decide +kernel
  · exact (handled.message rfl).symm

end Keypad
end DeskCalculator
