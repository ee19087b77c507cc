import DeskCalculator.Number.Notation
import DeskCalculator.Text.CodePoint
import DeskCalculator.Text.Lowercase

/-! Speech engines and how they are set up. Any call to an engine may fail, with a text that says why.
Setting up gives the volume, the rate and the first voice that speaks the wanted language; it stops
at the first failure. -/

namespace DeskCalculator

structure Voice where
  id : String
  name : String
  languages : List String

inductive VoiceProperty where
  | volume (value : Number)
  | rate (value : Int)
  | voice (id : String)

namespace VoiceProperty

def name : VoiceProperty → String
  | volume _ => "volume"
  | rate _ => "rate"
  | voice _ => "voice"

end VoiceProperty

/-- The calls of an engine. `sayFailure count text` is the failure of the message `text` after `count`
others. -/
structure SpeechEngine where
  voices : Except String (List Voice)
  setFailure : VoiceProperty → Option String
  sayFailure : Nat → String → Option String

abbrev SpeechSource := Nat → Except String SpeechEngine

structure SpeechLog where
  lines : List String
  properties : List VoiceProperty

namespace SpeechLog

def empty : SpeechLog := ⟨[], []⟩

def line (text : String) : SpeechLog := ⟨[text], []⟩

def append (first second : SpeechLog) : SpeechLog :=
  ⟨first.lines ++ second.lines, first.properties ++ second.properties⟩

end SpeechLog

namespace Voice

def occursIn (part : List Char) : List Char → Bool
  | [] => part = []
  | first :: rest => part.isPrefixOf (first :: rest) || occursIn part rest

/-- A voice speaks a language that its identifier or one of its languages names, in any case. -/
def speaks (voice : Voice) (language : String) : Bool :=
  (voice.id :: voice.languages).any fun name =>
    occursIn (Text.lower language).toList (Text.lower name).toList

/-- The first voice of a language. A surrogate is in the name of no voice. -/
def first? (voices : List Voice) (language : CodeText) : Option Voice :=
  language.toString?.bind fun name => voices.find? (·.speaks name)

end Voice

namespace SpeechEngine

def setUpFailureText (error : String) : String :=
  "⚠ Error al configurar voz: " ++ error

def setting (engine : SpeechEngine) (property : VoiceProperty) (next : SpeechLog) : SpeechLog :=
  match engine.setFailure property with
  | some error => .line (setUpFailureText error)
  | none => ⟨next.lines, property :: next.properties⟩

def noVoiceText (language : String) : String :=
  "⚠ No se encontró voz para '" ++ language ++ "'. Usando voz predeterminada."

def chooseVoice (engine : SpeechEngine) (language : CodeText) : SpeechLog :=
  match engine.voices with
  | .error error => .line (setUpFailureText error)
  | .ok voices =>
    match Voice.first? voices language with
    | none => .line (noVoiceText (Text.lower language.shown))
    | some voice =>
      engine.setting (.voice voice.id) (.line ("✓ Voz seleccionada: " ++ voice.name))

def setUp (engine : SpeechEngine) (volume : Number) (rate : Int) (language : CodeText) :
    SpeechLog :=
  engine.setting (.volume volume) <| engine.setting (.rate rate) <| engine.chooseVoice language

end SpeechEngine
end DeskCalculator
