import DeskCalculator.Text.Utf8

/-! Line breaks of files. A line ends with a line feed, with a carriage return, or with both in this
order; the text of a file has a line feed for each of them. -/

namespace DeskCalculator.Text

def unifyLineBreaks : List Char → List Char
  | [] => []
  | '\r' :: '\n' :: rest => '\n' :: unifyLineBreaks rest
  | character :: rest =>
    (if character = '\r' then '\n' else character) :: unifyLineBreaks rest

def ofFile (bytes : List UInt8) : Except Utf8.Malformed (List Char) :=
  (Utf8.decode bytes).map unifyLineBreaks

end DeskCalculator.Text
