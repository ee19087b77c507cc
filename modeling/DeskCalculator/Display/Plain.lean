/-! Text for the fonts of the display, which have no signs for the operators. -/

namespace DeskCalculator

def plainCharacter (character : Char) : List Char :=
  if character = '−' then ['-']
  else if character = '×' then ['x']
  else if character = '÷' then ['/']
  else if character = '√' then ['s', 'q', 'r', 't']
  else [character]

def plainText (text : String) : String :=
  String.ofList (text.toList.flatMap plainCharacter)

end DeskCalculator
