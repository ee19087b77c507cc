import DeskCalculator.Display.Screen
import DeskCalculator.Session.Basic
import DeskCalculator.Speech.Basic

/-! The calculator as a whole: a session, the window that shows it, the speech that comments it, and the
memory key that waits for its slot. -/

namespace DeskCalculator

inductive MemoryMode where
  | add
  | fetch
  | clear
deriving DecidableEq, Repr

def MemoryMode.name : MemoryMode → String
  | .add => "add"
  | .fetch => "recall"
  | .clear => "clear"

structure Keypad where
  settings : Settings
  session : Session
  screen : Screen
  speech : Speech
  mode : Option MemoryMode

namespace Keypad

def start (settings : Settings) (source : SpeechSource) : Keypad × List String :=
  let (speech, log) := Speech.start settings source none
  ({ settings := settings
     session := .start .standard settings.maxInputLength settings.verbose
     screen := .start settings.windowWidth settings.windowHeight settings
     speech := speech
     mode := none }, log.lines)

def red : Color := [255, 50, 50]

def cyan : Color := [0, 255, 255]

def lightGreen : Color := [100, 255, 100]

def orange : Color := [255, 150, 0]

def inform (keypad : Keypad) (message : String) (color : Color) : Keypad :=
  { keypad with screen := keypad.screen.announce message color none }

def announce (keypad : Keypad) (message : String) : Keypad × List String :=
  let (speech, lines) := keypad.speech.announce message
  ({ keypad with speech := speech }, lines)

structure Handled where
  keypad : Keypad
  accepted : Bool
  lines : List String

def ignored (keypad : Keypad) : Handled :=
  ⟨keypad, false, []⟩

def refused (keypad : Keypad) (message : String) : Handled :=
  ⟨keypad.inform message red, false, []⟩

def accepted (keypad : Keypad) (message : String) (color : Color) (spoken : String) : Handled :=
  let (commented, lines) := (keypad.inform message color).announce spoken
  ⟨commented, true, lines⟩

def Handled.after (lines : List String) (handled : Handled) : Handled :=
  { handled with lines := lines ++ handled.lines }

end Keypad
end DeskCalculator
