import DeskCalculator.CommandLine
import DeskCalculator.Settings.File
import DeskCalculator.Window

/-! The program from its command line to its last line: settings from the file that the command line
names, changed by its switches, and a run of the calculator with them. -/

namespace DeskCalculator.Program

inductive Exit where
  | help
  | usage (error : CommandLine.UsageError)
deriving DecidableEq, Repr

namespace Exit

def code : Exit → Nat
  | help => 0
  | usage _ => 2

def outputLines : Exit → List String
  | help => CommandLine.helpLines
  | usage _ => []

def errorLines : Exit → List String
  | help => []
  | usage error => [CommandLine.errorLine error]

end Exit

inductive Failure where
  | exit (exit : Exit)
  | load (error : Settings.LoadError)
deriving DecidableEq, Repr

/-- An empty path names no file. -/
def loadRequested (storage : Storage) : Option String → Settings.Loaded
  | none => .ok ({}, [])
  | some path => if path = "" then .ok ({}, []) else Settings.load storage path

def applySwitches (request : CommandLine.Request) (settings : Settings) : Settings :=
  { settings with
    voiceEnabled := settings.voiceEnabled && !request.noVoice
    verbose := settings.verbose || request.verbose }

def buildSettings (storage : Storage) (words : List String) :
    Except Failure (Settings × List Settings.Warning) :=
  match CommandLine.parse words with
  | .help => .error (.exit .help)
  | .refused error => .error (.exit (.usage error))
  | .run request =>
    match loadRequested storage request.configPath with
    | .error error => .error (.load error)
    | .ok (settings, warnings) => .ok (applySwitches request settings, warnings)

/-- What a run leaves behind; `opened` and `closed` tell of its window. -/
structure Report where
  exit : Option Exit
  lines : List String
  frames : List (List DrawCall)
  opened : Bool
  closed : Bool

def interruptedLine : String := "\nInterrumpido por el usuario"

def errorLine (message : String) : String := "\nError: " ++ message

def endingLines : Ending → List String
  | .closed => []
  | .interrupted => [interruptedLine]
  | .failed message => [errorLine message]

def runWith (settings : Settings) (warnings : List Settings.Warning) (source : SpeechSource)
    (moments : Moments) (events : List KeyEvent) : Report :=
  let (keypad, started) := Keypad.start settings source
  let outcome := keypad.run moments events
  { exit := none
    lines := warnings.map Settings.Warning.text ++ started ++ outcome.lines ++
      endingLines outcome.ending
    frames := outcome.frames
    opened := true
    closed := outcome.ending = .closed }

def run (storage : Storage) (words : List String) (source : SpeechSource) (moments : Moments)
    (events : List KeyEvent) : Report :=
  match buildSettings storage words with
  | .error (.exit exit) => ⟨some exit, exit.outputLines, [], false, false⟩
  | .error (.load error) => ⟨none, [errorLine error.message], [], false, false⟩
  | .ok (settings, warnings) => runWith settings warnings source moments events

end DeskCalculator.Program
