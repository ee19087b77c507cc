import DeskCalculator.Keypad.Key
import DeskCalculator.Session.Entry
import DeskCalculator.Session.Operation
import DeskCalculator.Session.Recall
import DeskCalculator.Speech.Phrases

/-! What each key does. While a memory key waits for its slot, a number key names the slot, the delete
key ends the waiting, and all other keys are ignored. -/

namespace DeskCalculator.Keypad

def incompleteText : String := "EXPRESION INCOMPLETA"

/-- The memory operation on the slot of a number. It ends the waiting, also when it fails. -/
def operateMemory (keypad : Keypad) (mode : MemoryMode) (number : Int) : Handled :=
  let request := SlotRequest.number number
  let label := "M" ++ request.shown
  let spoken (action : String) := Phrase.memory action request.shown
  let waitingEnded := { keypad with mode := none }
  match mode with
  | .add =>
    let reply := keypad.session.store request
    let stored := { waitingEnded with session := reply.session }
    if reply.answer then
      (stored.accepted (label ++ " GUARDADO") cyan (spoken "guardada")).after reply.lines
    else (stored.refused (label ++ ": " ++ incompleteText)).after reply.lines
  | .fetch =>
    let reply := keypad.session.fetch request
    match reply.answer with
    | none => (waitingEnded.refused (label ++ " VACIA")).after reply.lines
    | some tree =>
      let grafted := { waitingEnded with session := (reply.session.graft tree).1 }
      (grafted.accepted (label ++ " RECUPERADO") cyan (spoken "recuperada")).after reply.lines
  | .clear =>
    let reply := keypad.session.clear request
    let cleared := { waitingEnded with session := reply.session }
    (cleared.accepted (label ++ " BORRADO") cyan (spoken "borrada")).after reply.lines

def typeNumber (keypad : Keypad) (number : Int) : Handled :=
  let (session, answer) := keypad.session.type (toString number).toList
  match answer with
  | none => keypad.refused "LIMITE DE DIGITOS"
  | some _ =>
    { keypad with session := session }.accepted ("OK " ++ toString number) lightGreen
      (Phrase.number number)

def pressDelete (keypad : Keypad) : Handled :=
  { keypad with session := keypad.session.discard, mode := none }.accepted "TODO BORRADO" red
    "todo borrado"

def pressPoint (keypad : Keypad) : Handled :=
  let (session, answer) := keypad.session.typePoint
  match answer with
  | none => keypad.ignored
  | some _ => { keypad with session := session }.accepted "OK ." lightGreen "coma"

def pressSign (keypad : Keypad) : Handled :=
  { keypad with session := keypad.session.toggleSign }.accepted "+/- SIGNO" orange
    "cambio de signo"

/-- A refused operator still ends the number being typed. -/
def pressArithmetic (keypad : Keypad) (key : ArithmeticKey) : Handled :=
  let (session, answer) := keypad.session.pressOperator key.symbol
  let pressed := { keypad with session := session }
  match answer with
  | none => pressed.refused incompleteText
  | some _ =>
    pressed.accepted (key.symbol ++ " " ++ key.label) [0, 255, 0] (Phrase.operation key.symbol)

def resultDuration : Int := 60

def pressFinish (keypad : Keypad) : Handled :=
  let session := keypad.session.endNumber
  let result := session.resultText
  let shown := { keypad with
    session := session
    screen := keypad.screen.announce ("= " ++ result) cyan (some resultDuration) }
  let (commented, lines) := shown.announce (Phrase.result result)
  ⟨commented, true, lines⟩

def pressMemory (keypad : Keypad) (mode : MemoryMode) : Handled :=
  ⟨{ keypad with mode := some mode }.inform "ELIJA RANURA 0-9" cyan, true, []⟩

def press (keypad : Keypad) (key : Key) : Handled :=
  match key, keypad.mode with
  | .delete, _ => keypad.pressDelete
  | .number value, some mode => keypad.operateMemory mode value
  | .number value, none => keypad.typeNumber value
  | _, some _ => keypad.ignored
  | .memory mode, none => keypad.pressMemory mode
  | .point, none => keypad.pressPoint
  | .sign, none => keypad.pressSign
  | .arithmetic key, none => keypad.pressArithmetic key
  | .finish, none => keypad.pressFinish
  | .unknown, none => keypad.ignored

/-- An identifier that is no key changes nothing; one of a number key without a number is an error. -/
def process (keypad : Keypad) (identifier : CodeText) : Except KeyError Handled :=
  (Key.ofIdentifier identifier).map keypad.press

def voiceStatus (enabled : Bool) : String :=
  if enabled then "ACTIVADA" else "DESACTIVADA"

/-- Turns speech on or off; `accepted` is whether it is on afterwards. -/
def toggleVoice (keypad : Keypad) : Handled :=
  let toggled := { keypad.speech with enabled := ¬ keypad.speech.enabled }
  let (speech, lines) := if toggled.enabled then toggled.announce "voz activada" else (toggled, [])
  let status := voiceStatus speech.enabled
  let screen := keypad.screen.announce ("VOZ " ++ status) cyan (some resultDuration)
  ⟨{ keypad with speech := speech, screen := screen }, speech.enabled,
    lines ++ ["🔊 Voz: " ++ status]⟩

def drawing (keypad : Keypad) (moment : Moment) :
    Keypad × Except DrawError (List DrawCall) :=
  let (screen, calls) :=
    keypad.screen.draw keypad.session (keypad.mode.map MemoryMode.name) moment
  ({ keypad with screen := screen }, calls)

end DeskCalculator.Keypad
