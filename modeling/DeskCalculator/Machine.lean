import DeskCalculator.Display.Canvas

/-! The machine that the command line program runs on: its frames and its texts. A frame has a byte for each
channel of each point. The sides are signed 64-bit numbers, and so is the number of bytes; zeros among the
factors are left out of the product, so a frame without points may still be too large. Text is laid out in
cells of one width. -/

namespace DeskCalculator

inductive FrameError where
  | sideOutOfRange
  | negativeSide
  | tooManyBytes
  | outOfMemory (width height : Nat)
deriving DecidableEq, Repr

structure Frame where
  width : Nat
  height : Nat
deriving DecidableEq, Repr

namespace Frame

def channels : Nat := 3

def bound : Nat := Nat.pow 2 63

def inRange (side : Int) : Bool :=
  -(bound : Int) ≤ side && side < bound

def product (size : Nat) : List Int → Except FrameError Nat
  | [] => .ok size
  | .negSucc _ :: _ => .error .negativeSide
  | .ofNat factor :: rest =>
    if factor = 0 then product size rest
    else if bound ≤ size * factor then .error .tooManyBytes
    else product (size * factor) rest

def memory : Nat := Nat.pow 2 36

def hasPoints (frame : Frame) : Bool :=
  frame.width ≠ 0 && frame.height ≠ 0

def create (width height : Int) : Except FrameError Frame :=
  if ¬ (inRange width && inRange height) then .error .sideOutOfRange
  else
    match product 1 [height, width, channels] with
    | .error error => .error error
    | .ok bytes =>
      let frame : Frame := ⟨width.toNat, height.toNat⟩
      if frame.hasPoints && memory < bytes then .error (.outOfMemory frame.width frame.height)
      else .ok frame

def unitNames : List String :=
  ["bytes", "KiB", "MiB", "GiB", "TiB", "PiB", "EiB"]

/-- A fraction with three digits, or with all digits before the point if there are more. -/
def threeDigits (numerator denominator : Nat) : String :=
  let rounded (places : Nat) : Nat :=
    Binary64.roundedQuotient (numerator * Nat.pow 10 places) denominator
  let fixed (places : Nat) : String :=
    let power := Nat.pow 10 places
    let fraction := Decimal.digits (rounded places % power + power)
    toString (rounded places / power) ++ "." ++ String.ofList (fraction.drop 1)
  if rounded 2 < 1000 then fixed 2
  else if rounded 1 < 1000 then fixed 1
  else fixed 0

/-- A number of bytes, as the closest double in the unit that leaves it below 1024. -/
def sizeText (bytes : Nat) : String :=
  let index := bytes.log2 / 10
  let counted (index : Nat) : Nat := Binary64.units (Binary64.nearest bytes (Nat.pow 1024 index))
  let written (index : Nat) : String :=
    threeDigits (counted index) Binary64.unit ++ " " ++ unitNames.getD index ""
  if Binary64.roundedQuotient (counted index) Binary64.unit = 1024 then written (index + 1)
  else written index

end Frame

namespace FrameError

def shapeText (width height : Nat) : String :=
  "(" ++ toString height ++ ", " ++ toString width ++ ", " ++ toString Frame.channels ++ ")"

def message : FrameError → String
  | sideOutOfRange => "Maximum allowed dimension exceeded"
  | negativeSide => "negative dimensions are not allowed"
  | tooManyBytes =>
    "array is too big; `arr.size * arr.dtype.itemsize` is larger than the maximum possible size."
  | outOfMemory width height =>
    "Unable to allocate " ++ Frame.sizeText (width * height * Frame.channels) ++
      " for an array with shape " ++ shapeText width height ++ " and data type uint8"

end FrameError

namespace Machine

def cellWidth : Nat := 20

def moment (now : Number) : Moment :=
  { now := now
    frameFault? := fun width height =>
      match Frame.create width height with
      | .error error => some error.message
      | .ok _ => none
    textWidth := fun content _ _ _ => (cellWidth * content.length : Nat) }

def moments : Moments :=
  fun place => moment (.whole (place * 30 / 1000))

end Machine
end DeskCalculator
