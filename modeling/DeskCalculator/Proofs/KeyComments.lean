import DeskCalculator.Proofs.KeypadRuns

/-! What a key shows and says. Its comment, a message and perhaps words to be spoken, is told by the key,
the session and the memory key that waits. A press is then four effects that do not look at each other:
on the session, on the waiting, on the message of the window, and on the speech. -/

namespace DeskCalculator

/-- Without a duration of its own the message lasts as long as the settings say. -/
structure Comment where
  message : String
  color : Color
  duration : Option Int
  spoken : Option String

def Comment.refusal (message : String) : Comment :=
  ⟨message, Keypad.red, none, none⟩

def MemoryMode.comment (mode : MemoryMode) (slot : String) (accepted : Bool) : Comment :=
  match mode, accepted with
  | .add, true => ⟨"M" ++ slot ++ " GUARDADO", Keypad.cyan, none, some (Phrase.memory "guardada" slot)⟩
  | .add, false => .refusal ("M" ++ slot ++ ": " ++ Keypad.incompleteText)
  | .fetch, true =>
    ⟨"M" ++ slot ++ " RECUPERADO", Keypad.cyan, none, some (Phrase.memory "recuperada" slot)⟩
  | .fetch, false => .refusal ("M" ++ slot ++ " VACIA")
  | .clear, _ => ⟨"M" ++ slot ++ " BORRADO", Keypad.cyan, none, some (Phrase.memory "borrada" slot)⟩

namespace Key

/-- A point that is refused and a key that is ignored have no comment. -/
def comment? (session : Session) (mode : Option MemoryMode) (key : Key) : Option Comment :=
  let accepted := key.answer session mode
  match key, mode with
  | .delete, _ => some ⟨"TODO BORRADO", Keypad.red, none, some "todo borrado"⟩
  | .number value, some mode => some (mode.comment (SlotRequest.number value).shown accepted)
  | .number value, none =>
    some (if accepted then
      ⟨"OK " ++ toString value, Keypad.lightGreen, none, some (Phrase.number value)⟩
    else .refusal "LIMITE DE DIGITOS")
  | _, some _ => none
  | .memory _, none => some ⟨"ELIJA RANURA 0-9", Keypad.cyan, none, none⟩
  | .point, none =>
    if accepted then some ⟨"OK .", Keypad.lightGreen, none, some "coma"⟩ else none
  | .sign, none => some ⟨"+/- SIGNO", Keypad.orange, none, some "cambio de signo"⟩
  | .arithmetic key, none =>
    some (if accepted then
      ⟨key.symbol ++ " " ++ key.label, [0, 255, 0], none, some (Phrase.operation key.symbol)⟩
    else .refusal Keypad.incompleteText)
  | .finish, none =>
    let result := session.endNumber.resultText
    some ⟨"= " ++ result, Keypad.cyan, some Keypad.resultDuration, some (Phrase.result result)⟩
  | .unknown, none => none

end Key

def Session.reported (session : Session) : Option Action → List String
  | some (.store request) => (session.store request).lines
  | some (.clear request) => (session.clear request).lines
  | some (.fetch request) => (session.fetch request).lines
  | _ => []

def Screen.showing (screen : Screen) : Option Comment → Screen
  | none => screen
  | some comment => screen.announce comment.message comment.color comment.duration

def Speech.saying (speech : Speech) : Option String → Speech × List String
  | none => (speech, [])
  | some words => speech.announce words

namespace Keypad

/-- What a key does besides its action on the session. -/
structure Commented (before : Keypad) (reported : List String) (comment? : Option Comment)
    (handled : Handled) : Prop where
  settings : handled.keypad.settings = before.settings
  screen : handled.keypad.screen = before.screen.showing comment?
  speech : handled.keypad.speech = (before.speech.saying (comment?.bind Comment.spoken)).1
  lines : handled.lines =
    reported ++ (before.speech.saying (comment?.bind Comment.spoken)).2

theorem operateMemory_commented (keypad : Keypad) (mode : MemoryMode) (number : Int) :
    keypad.Commented (keypad.session.reported (some (mode.action (.number number))))
      (some (mode.comment (SlotRequest.number number).shown
        (Key.answer keypad.session (some mode) (.number number))))
      (keypad.operateMemory mode number) := by
  cases mode with
  | clear => exact ⟨rfl, rfl, rfl, rfl⟩
  | add =>
      change keypad.Commented (keypad.session.store (.number number)).lines
        (some (MemoryMode.comment .add _ (keypad.session.store (.number number)).answer)) _
      cases stored : (keypad.session.store (.number number)).answer <;>
        simp only [operateMemory, stored] <;> exact ⟨rfl, rfl, rfl, rfl⟩
  | fetch =>
      change keypad.Commented (keypad.session.fetch (.number number)).lines
        (some (MemoryMode.comment .fetch _
          (keypad.session.fetch (.number number)).answer.isSome)) _
      cases found : (keypad.session.fetch (.number number)).answer <;>
        simp only [operateMemory, found] <;> exact ⟨rfl, rfl, rfl, rfl⟩

theorem typeNumber_commented (keypad : Keypad) (number : Int) :
    keypad.Commented [] (Key.comment? keypad.session none (.number number))
      (keypad.typeNumber number) := by
  cases typed : keypad.session.type (toString number).toList with
  | mk session answer =>
      cases answer <;>
        simp only [typeNumber, Key.comment?, Key.answer, Key.action?, Session.accepts, typed] <;>
        exact ⟨rfl, rfl, rfl, rfl⟩

theorem pressPoint_commented (keypad : Keypad) :
    keypad.Commented [] (Key.comment? keypad.session none .point) keypad.pressPoint := by
  cases typed : keypad.session.typePoint with
  | mk session answer =>
      cases answer <;>
        simp only [pressPoint, Key.comment?, Key.answer, Key.action?, Session.accepts, typed] <;>
        exact ⟨rfl, rfl, rfl, rfl⟩

theorem pressArithmetic_commented (keypad : Keypad) (key : ArithmeticKey) :
    keypad.Commented [] (Key.comment? keypad.session none (.arithmetic key))
      (keypad.pressArithmetic key) := by
  cases pressed : keypad.session.pressOperator key.symbol with
  | mk session answer =>
      cases answer <;>
        simp only [pressArithmetic, Key.comment?, Key.answer, Key.action?, Session.accepts,
          pressed] <;>
        exact ⟨rfl, rfl, rfl, rfl⟩

theorem press_commented (keypad : Keypad) (key : Key) :
    keypad.Commented (keypad.session.reported (key.action? keypad.mode))
      (key.comment? keypad.session keypad.mode) (keypad.press key) := by
  cases waiting : keypad.mode with
  | some mode =>
      cases key with
      | delete =>
          rw [press_delete]
          exact ⟨rfl, rfl, rfl, rfl⟩
      | number value =>
          rw [press_slot waiting]
          exact keypad.operateMemory_commented mode value
      | _ =>
          rw [press_waiting waiting rfl]
          exact ⟨rfl, rfl, rfl, rfl⟩
  | none =>
      cases key with
      | delete =>
          rw [press_delete]
          exact ⟨rfl, rfl, rfl, rfl⟩
      | number value =>
          rw [press_number waiting]
          exact keypad.typeNumber_commented value
      | point =>
          simp only [press, waiting]
          exact keypad.pressPoint_commented
      | arithmetic key =>
          simp only [press, waiting]
          exact keypad.pressArithmetic_commented key
      | _ =>
          simp only [press, waiting]
          exact ⟨rfl, rfl, rfl, rfl⟩

/-- All that a key does. -/
theorem press_eq (keypad : Keypad) (key : Key) :
    let comment? := key.comment? keypad.session keypad.mode
    let said := keypad.speech.saying (comment?.bind Comment.spoken)
    keypad.press key =
      { keypad :=
          { settings := keypad.settings
            session := keypad.session.run (key.action? keypad.mode).toList
            screen := keypad.screen.showing comment?
            speech := said.1
            mode := if key.endsWaiting keypad.mode then none else keypad.mode.or key.memory? }
        accepted := key.answer keypad.session keypad.mode
        lines := keypad.session.reported (key.action? keypad.mode) ++ said.2 } := by
  intro comment? said
  obtain ⟨settings, screen, speech, lines⟩ := keypad.press_commented key
  obtain ⟨session, accepted⟩ := keypad.press_session key
  have mode := keypad.press_mode key
  rw [← settings, ← session, ← screen, ← speech, ← mode, ← accepted, ← lines]

end Keypad
end DeskCalculator
