import DeskCalculator.Display.Canvas
import DeskCalculator.Display.Plain
import DeskCalculator.Json.Numbers

/-! The message at the foot of the window. It is painted as many times as its duration says and fades
over the last twenty pictures. -/

namespace DeskCalculator

/-- `timer` counts the pictures still to come. -/
structure Feedback where
  message : String
  color : Color
  timer : Int
deriving DecidableEq, Repr

namespace Feedback

def green : Color := [0, 255, 0]

def none : Feedback := ⟨"", green, 0⟩

def fade (remaining : Nat) : Float :=
  if 20 ≤ remaining then 1 else Float.ofNat remaining / 20

/-- What holds of full strength and of its parts holds of every strength. -/
theorem fade_of_parts {holds : Float → Prop} (full : holds 1)
    (partly : ∀ remaining < 20, holds (Float.ofNat remaining / 20)) (remaining : Nat) :
    holds (fade remaining) := by
  unfold fade
  split
  · exact full
  · rename_i few
    exact partly remaining (Nat.lt_of_not_le few)

def faded (strength : Float) (channel : Int) : Except NumberError Int :=
  match (Binary64.ofInt? channel).bind fun value => Binary64.truncate? (value * strength) with
  | some shade => .ok shade
  | Option.none => .error .tooLarge

def fadedColor (strength : Float) (color : Color) : Except NumberError Color :=
  color.mapM (faded strength)

/-- There is no strength for more pictures than all doubles can count. -/
def strength (remaining : Nat) : Except NumberError Float :=
  match Binary64.ofInt? remaining with
  | Option.none => .error .tooLarge
  | some _ => .ok (fade remaining)

def calls (feedback : Feedback) (height : Int) (strength : Float) (color : Color) : List DrawCall :=
  [.rectangle .overlay ⟨20, height - 85⟩ ⟨560, height - 28⟩ [40, 40, 40] (-1),
    .blend (strength * 0.88) (1 - strength * 0.88),
    .text (plainText feedback.message) ⟨40, height - 40⟩ .duplex 1.2 color 2]

def paint (feedback : Feedback) (height : Int) (remaining : Nat) : Except NumberError (List DrawCall) :=
  (strength remaining).bind fun strength =>
    (fadedColor strength feedback.color).map (feedback.calls height strength)

def draw (feedback : Feedback) (height : Int) : Feedback × Except NumberError (List DrawCall) :=
  if 0 < feedback.timer then
    let remaining := feedback.timer - 1
    ({ feedback with timer := remaining }, feedback.paint height remaining.toNat)
  else (feedback, .ok [])

end Feedback
end DeskCalculator
