import DeskCalculator.Display.Clock
import DeskCalculator.Display.Feedback
import DeskCalculator.Session.Basic
import DeskCalculator.Settings.Basic

/-! The window of the calculator: the display with the expression, the number being typed and the
result; the memory slots; the guide to the keys; the feedback message. -/

namespace DeskCalculator

inductive DrawError where
  | clock (error : ClockError)
  | feedback (error : NumberError)
deriving DecidableEq, Repr

def DrawError.message : DrawError → String
  | .clock error => error.message
  | .feedback error => error.message

structure Screen where
  width : Int
  height : Int
  showGuide : Bool
  feedbackDuration : Int
  feedback : Feedback

namespace Screen

def start (width height : Int) (settings : Settings) : Screen :=
  ⟨width, height, settings.showKeyGuide, settings.feedbackDuration, .none⟩

def frameFault? (screen : Screen) (moment : Moment) : Option String :=
  moment.frameFault? screen.width screen.height

/-- Without a duration of its own a message lasts as long as the settings say. -/
def announce (screen : Screen) (message : String) (color : Color) (duration : Option Int) : Screen :=
  { screen with feedback := ⟨message, color, duration.getD screen.feedbackDuration⟩ }

def entryScale (shown : String) : Float :=
  if shown.length < 8 then 2.5 else 1.8

def cursorCalls (moment : Moment) (shown : String) : List DrawCall :=
  let x := 60 + moment.textWidth shown .duplex (entryScale shown) 3
  [.measure shown .duplex (entryScale shown) 3, .line ⟨x, 130⟩ ⟨x, 175⟩ [0, 255, 0] 4]

/-- The clock is looked at only while a number is typed. -/
def drawCursor (session : Session) (moment : Moment) : Except ClockError (List DrawCall) :=
  match session.entry with
  | none => .ok []
  | some _ =>
    (Clock.showsCursor moment.now).map fun visible =>
      if visible then cursorCalls moment session.entryText else []

def resultColor (shown : String) : Color :=
  if shown = placeholder then [100, 100, 255] else [100, 255, 100]

def displayCalls (screen : Screen) (session : Session) (between : List DrawCall) : List DrawCall :=
  let corner : Point := ⟨30, 30⟩
  let opposite : Point := ⟨30 + (screen.width - 60), 270⟩
  let shown := session.entryText
  let result := session.resultText
  [.rectangle .overlay corner opposite [35, 35, 35] (-1), .blend 0.92 0.08,
    .rectangle .frame corner opposite [100, 200, 255] 4,
    .text (plainText session.expressionText) ⟨50, 80⟩ .simplex 0.9 [180, 180, 180] 2,
    .text shown ⟨50, 170⟩ .duplex (entryScale shown) [255, 255, 255] 3] ++
  between ++
  [.text ("= " ++ result) ⟨50, 240⟩ .duplex 1.4 (resultColor result) 2]

def drawDisplay (screen : Screen) (session : Session) (moment : Moment) :
    Except ClockError (List DrawCall) :=
  (drawCursor session moment).map (screen.displayCalls session)

def slotCalls (memory : Memory) (slot : Fin slotCount) : List DrawCall :=
  let x : Int := 30 + 60 * (slot.val : Int)
  let color : Color := if (memory.get slot).isSome then [0, 200, 255] else [90, 90, 90]
  [.rectangle .frame ⟨x, 300⟩ ⟨x + 50, 336⟩ color 2,
    .text ("M" ++ toString slot.val) ⟨x + 8, 326⟩ .simplex 0.6 color 2]

def modeLabels : Entries String String :=
  [("add", "M+"), ("recall", "MR"), ("clear", "MC")]

def modeCalls : Option String → List DrawCall
  | none => []
  | some mode =>
    if mode = "" then []
    else
      let label := (modeLabels.get? mode).getD mode
      [.text (label ++ ": elija ranura 0-9") ⟨30, 375⟩ .simplex 0.8 [0, 255, 255] 2]

def drawMemory (memory : Memory) (mode : Option String) : List DrawCall :=
  (List.finRange slotCount).flatMap (slotCalls memory) ++ modeCalls mode

def guideTitle : String := "TECLAS"

def guideLines : List String :=
  ["  0-9 .  numeros", "  n      cambiar signo", "  + - * /  operadores", "  s      raiz cuadrada",
    "  Enter =  terminar numero", "  Retroceso  borrar todo", "  m r c  M+ MR MC",
    "  q Esc  salir | v voz"]

def drawGuide (screen : Screen) : List DrawCall :=
  if screen.showGuide then
    let x := screen.width - 300
    .text guideTitle ⟨x, 300⟩ .duplex 0.7 [100, 200, 255] 2 ::
      guideLines.mapIdx fun index label =>
        .text label ⟨x, 324 + 24 * (index : Int)⟩ .simplex 0.5 [200, 200, 200] 1
  else []

def drawFeedback (screen : Screen) : Screen × Except NumberError (List DrawCall) :=
  let (feedback, calls) := screen.feedback.draw screen.height
  ({ screen with feedback := feedback }, calls)

/-- The whole picture; only the feedback message changes by being painted, and it is painted last. -/
def draw (screen : Screen) (session : Session) (mode : Option String) (moment : Moment) :
    Screen × Except DrawError (List DrawCall) :=
  match screen.drawDisplay session moment with
  | .error error => (screen, .error (.clock error))
  | .ok display =>
    let (painted, calls) := screen.drawFeedback
    let before := display ++ drawMemory session.memory mode ++ screen.drawGuide
    (painted, (calls.map (before ++ ·)).mapError .feedback)

end Screen
end DeskCalculator
