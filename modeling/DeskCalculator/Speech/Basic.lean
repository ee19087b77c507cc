import DeskCalculator.Settings.Basic
import DeskCalculator.Speech.Engine
import DeskCalculator.Speech.Playback

/-! Spoken feedback. Speech that is enabled and has no engine starts one, at once when the calculator
starts or else with the next message; if that fails it disables itself. An engine that has started is
kept. -/

namespace DeskCalculator

/-- `attempts` counts the engines asked for. -/
structure Speech where
  source : SpeechSource
  volume : Number
  rate : Int
  language : CodeText
  enabled : Bool
  attempts : Nat
  engine : Option SpeechEngine
  playback : Playback

namespace Speech

def openedText : String :=
  "✓ Sistema de voz inicializado correctamente"

def openFailureText (error : String) : String :=
  "⚠ Advertencia: No se pudo inicializar el sistema de voz: " ++ error

def setUp (speech : Speech) (engine : SpeechEngine) : SpeechLog :=
  engine.setUp speech.volume speech.rate speech.language

def openEngine (speech : Speech) : Speech × SpeechLog :=
  let attempted := { speech with attempts := speech.attempts + 1 }
  match speech.source speech.attempts with
  | .error error => ({ attempted with enabled := false }, .line (openFailureText error))
  | .ok engine =>
    ({ attempted with engine := some engine }, (SpeechLog.line openedText).append (speech.setUp engine))

def start (settings : Settings) (source : SpeechSource) (given : Option SpeechEngine) :
    Speech × SpeechLog :=
  let speech : Speech :=
    ⟨source, settings.voiceVolume, settings.voiceRate, settings.voiceLanguage,
      settings.voiceEnabled, 0, given, .silent⟩
  match given with
  | some engine => (speech, speech.setUp engine)
  | none => if speech.enabled then speech.openEngine else (speech, .empty)

def enqueue (speech : Speech) (message : String) : Speech :=
  if speech.engine.isSome then { speech with playback := speech.playback.accept message } else speech

def speak (speech : Speech) (message : String) : Speech × SpeechLog :=
  if ¬ speech.enabled then (speech, .empty)
  else
    let (ready, log) := if speech.engine.isSome then (speech, .empty) else speech.openEngine
    (ready.enqueue message, log)

def settle (speech : Speech) (held : Bool) : Speech × List String :=
  match speech.engine with
  | none => (speech, [])
  | some engine =>
    let (playback, lines) := speech.playback.settle engine.sayFailure held
    ({ speech with playback := playback }, lines)

def announce (speech : Speech) (message : String) : Speech × List String :=
  let (queued, log) := speech.speak message
  let (settled, lines) := queued.settle false
  (settled, log.lines ++ lines)

end Speech
end DeskCalculator
