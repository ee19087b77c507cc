import DeskCalculator.Json.Basic

/-! Settings of the calculator. Each field has a name and accepts the values of one kind: a switch takes
truth values only, the volume takes both kinds of numbers, other numbers are whole, and the key map
takes objects of strings and is replaced as a whole. -/

namespace DeskCalculator

/-- From the character of a key to what the key does. -/
abbrev KeyMap := Entries CodeText CodeText

namespace KeyMap

def standard : KeyMap :=
  [("0", "num_0"), ("1", "num_1"), ("2", "num_2"), ("3", "num_3"), ("4", "num_4"),
    ("5", "num_5"), ("6", "num_6"), ("7", "num_7"), ("8", "num_8"), ("9", "num_9"),
    (".", "dot"), ("n", "negate"), ("+", "add"), ("-", "subtract"), ("*", "multiply"),
    ("/", "divide"), ("s", "sqrt"), ("=", "enter"), ("\r", "enter"), ("\x08", "delete"),
    ("\x7f", "delete"), ("m", "mem_add"), ("r", "mem_recall"), ("c", "mem_clear")]

end KeyMap

structure Settings where
  voiceEnabled : Bool := true
  voiceVolume : Number := .real 0.8
  voiceRate : Int := 150
  voiceLanguage : CodeText := "es"
  maxInputLength : Int := 12
  verbose : Bool := false
  windowWidth : Int := 960
  windowHeight : Int := 540
  showKeyGuide : Bool := true
  feedbackDuration : Int := 40
  keyMap : KeyMap := KeyMap.standard

namespace Settings

inductive Field where
  | voiceEnabled
  | voiceVolume
  | voiceRate
  | voiceLanguage
  | maxInputLength
  | verbose
  | windowWidth
  | windowHeight
  | showKeyGuide
  | feedbackDuration
  | keyMap
deriving DecidableEq, Repr

namespace Field

def all : List Field :=
  [voiceEnabled, voiceVolume, voiceRate, voiceLanguage, maxInputLength, verbose, windowWidth,
    windowHeight, showKeyGuide, feedbackDuration, keyMap]

def name : Field → CodeText
  | voiceEnabled => "voice_enabled"
  | voiceVolume => "voice_volume"
  | voiceRate => "voice_rate"
  | voiceLanguage => "voice_language"
  | maxInputLength => "max_input_length"
  | verbose => "verbose"
  | windowWidth => "window_width"
  | windowHeight => "window_height"
  | showKeyGuide => "show_key_guide"
  | feedbackDuration => "feedback_duration"
  | keyMap => "key_map"

def named? (name : CodeText) : Option Field :=
  all.find? fun field => field.name = name

theorem mem_all (field : Field) : field ∈ all := by
  cases field <;> decide

end Field

def value (settings : Settings) : Field → Json
  | .voiceEnabled => .bool settings.voiceEnabled
  | .voiceVolume => .number settings.voiceVolume
  | .voiceRate => .whole settings.voiceRate
  | .voiceLanguage => .string settings.voiceLanguage
  | .maxInputLength => .whole settings.maxInputLength
  | .verbose => .bool settings.verbose
  | .windowWidth => .whole settings.windowWidth
  | .windowHeight => .whole settings.windowHeight
  | .showKeyGuide => .bool settings.showKeyGuide
  | .feedbackDuration => .whole settings.feedbackDuration
  | .keyMap => .object (settings.keyMap.map fun entry => (entry.1, .string entry.2))

def switch? : Json → Option Bool
  | .bool value => some value
  | _ => none

def number? : Json → Option Number
  | .number value => some value
  | _ => none

def whole? : Json → Option Int
  | .number (.whole value) => some value
  | _ => none

def string? : Json → Option CodeText
  | .string value => some value
  | _ => none

def keyMap? : Json → Option KeyMap
  | .object members => members.mapM fun member => (string? member.2).map (member.1, ·)
  | _ => none

/-- Gives a field a value of its kind; a value of another kind is refused. -/
def set? (settings : Settings) (field : Field) (value : Json) : Option Settings :=
  match field with
  | .voiceEnabled => (switch? value).map ({ settings with voiceEnabled := · })
  | .voiceVolume => (number? value).map ({ settings with voiceVolume := · })
  | .voiceRate => (whole? value).map ({ settings with voiceRate := · })
  | .voiceLanguage => (string? value).map ({ settings with voiceLanguage := · })
  | .maxInputLength => (whole? value).map ({ settings with maxInputLength := · })
  | .verbose => (switch? value).map ({ settings with verbose := · })
  | .windowWidth => (whole? value).map ({ settings with windowWidth := · })
  | .windowHeight => (whole? value).map ({ settings with windowHeight := · })
  | .showKeyGuide => (switch? value).map ({ settings with showKeyGuide := · })
  | .feedbackDuration => (whole? value).map ({ settings with feedbackDuration := · })
  | .keyMap => (keyMap? value).map ({ settings with keyMap := · })

def keyOfCode? : Int → Option CodeText
  | .negSucc _ => none
  | .ofNat code => if code < CodePoint.bound then some [.ofNat code] else none

def keyFor? (settings : Settings) (code : Int) : Option CodeText :=
  (keyOfCode? code).bind fun key => settings.keyMap.get? key

end Settings
end DeskCalculator
