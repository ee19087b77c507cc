import DeskCalculator.Number.Notation

/-! Drawing calls. A picture is painted on a frame; an overlay is a copy of the frame that may be blended
into it. The clock, the frames and the widths of texts belong to the machine. -/

namespace DeskCalculator

/-- The channels of a colour, blue first. -/
abbrev Color := List Int

structure Point where
  x : Int
  y : Int
deriving DecidableEq, Repr

inductive Surface where
  | frame
  | overlay
deriving DecidableEq, Repr

inductive Font where
  | simplex
  | duplex
deriving DecidableEq, Repr

/-- A negative thickness fills a rectangle. `blend` paints the overlay with its weight onto the frame
with the other weight. -/
inductive DrawCall where
  | rectangle (surface : Surface) (corner opposite : Point) (color : Color) (thickness : Int)
  | blend (overlayWeight frameWeight : Float)
  | text (content : String) (place : Point) (font : Font) (scale : Float) (color : Color)
      (thickness : Int)
  | measure (content : String) (font : Font) (scale : Float) (thickness : Int)
  | line (start finish : Point) (color : Color) (thickness : Int)

namespace DrawCall

def text? : DrawCall → Option String
  | text content _ _ _ _ _ => some content
  | _ => none

def texts (calls : List DrawCall) : List String :=
  calls.filterMap text?

end DrawCall

/-- What the machine gives to one picture: the time, the reason why there is no frame of some sides if there
is none, and the width of a text. -/
structure Moment where
  now : Number
  frameFault? (width height : Int) : Option String
  textWidth (content : String) (font : Font) (scale : Float) (thickness : Int) : Int

abbrev Moments := Nat → Moment

def Moments.next (moments : Moments) : Moments :=
  fun place => moments (place + 1)

end DeskCalculator
