import DeskCalculator.Keypad.Processing

/-! The main loop. Each turn paints a picture of the calculator and reads one event of the keyboard:
no key, a key code, or an interruption. The loop ends with the escape key or `q`; a keyboard that has
no more events counts as the escape key. -/

namespace DeskCalculator

inductive KeyEvent where
  | code (value : Int)
  | interrupt
  | failure (text : String)
deriving DecidableEq, Repr

inductive Ending where
  | closed
  | interrupted
  | failed (message : String)
deriving DecidableEq, Repr

inductive Command where
  | idle
  | leave
  | toggleVoice
  | key (identifier : CodeText)
deriving DecidableEq, Repr

structure Outcome where
  keypad : Keypad
  ending : Ending
  frames : List (List DrawCall)
  lines : List String

namespace Keypad

def noKey : Int := -1

def escapeCode : Int := 27

/-- Only the low eight bits of a code count. The keys of the window come before those of the key map. -/
def command (settings : Settings) (code : Int) : Command :=
  if code = noKey then .idle
  else
    let low := code % 256
    if low = escapeCode ∨ low = 'q'.toNat then .leave
    else if low = 'v'.toNat then .toggleVoice
    else
      match settings.keyFor? low with
      | none => .idle
      | some identifier => if identifier = [] then .idle else .key identifier

def obey (keypad : Keypad) : Command → Except KeyError (Keypad × List String)
  | .idle => .ok (keypad, [])
  | .leave => .ok (keypad, [])
  | .toggleVoice =>
    let handled := keypad.toggleVoice
    .ok (handled.keypad, handled.lines)
  | .key identifier => (keypad.process identifier).map fun handled => (handled.keypad, handled.lines)

def picture (keypad : Keypad) (moment : Moment) : Keypad × Except String (List DrawCall) :=
  match keypad.screen.frameFault? moment with
  | some fault => (keypad, .error fault)
  | none =>
    let (drawn, calls) := keypad.drawing moment
    (drawn, calls.mapError DrawError.message)

def Outcome.after (calls : List DrawCall) (lines : List String) (outcome : Outcome) : Outcome :=
  { outcome with frames := calls :: outcome.frames, lines := lines ++ outcome.lines }

/-- Each picture has a moment of its own. -/
def loop (keypad : Keypad) (moments : Moments) : List KeyEvent → Outcome
  | [] =>
    match keypad.picture (moments 0) with
    | (drawn, .error message) => ⟨drawn, .failed message, [], []⟩
    | (drawn, .ok calls) => ⟨drawn, .closed, [calls], []⟩
  | event :: rest =>
    match keypad.picture (moments 0) with
    | (drawn, .error message) => ⟨drawn, .failed message, [], []⟩
    | (drawn, .ok calls) =>
      match event with
      | .interrupt => ⟨drawn, .interrupted, [calls], []⟩
      | .failure text => ⟨drawn, .failed text, [calls], []⟩
      | .code code =>
        let command := command drawn.settings code
        if command = .leave then ⟨drawn, .closed, [calls], []⟩
        else
          match drawn.obey command with
          | .error error => ⟨drawn, .failed error.message, [calls], []⟩
          | .ok (obeyed, lines) => Outcome.after calls lines (loop obeyed moments.next rest)

def windowTitle : String := "Calculadora de arbol"

def rule : String :=
  String.ofList (List.replicate 70 '=')

def welcome (voiceEnabled : Bool) : List String :=
  ["\n" ++ rule, "CALCULADORA DE ARBOL DE EXPRESIONES", rule,
    "\nNumeros: 0-9 y '.'  |  Signo: n", "Operadores: + - * /  |  Raiz: s",
    "Enter o '=': terminar numero  |  Retroceso: borrar todo",
    "Memoria: m (M+), r (MR), c (MC) seguido de la ranura 0-9"] ++
  (if voiceEnabled then ["\n🔊 FEEDBACK POR VOZ: Activado"] else []) ++
  ["\nPresiona ESC o 'q' para salir, 'v' para activar/desactivar voz", rule ++ "\n"]

def farewell : List String :=
  ["\nOK Aplicacion cerrada correctamente"]

def run (keypad : Keypad) (moments : Moments) (events : List KeyEvent) : Outcome :=
  let outcome := keypad.loop moments events
  let last := if outcome.ending = .closed then farewell else []
  { outcome with lines := welcome keypad.speech.enabled ++ outcome.lines ++ last }

end Keypad
end DeskCalculator
