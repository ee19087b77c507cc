import DeskCalculator.Machine
import DeskCalculator.Program

/-! The command line program. Key codes are the bytes of standard input; the machine has no speech
engine, and a picture of the window is not shown. -/

namespace DeskCalculator

/-- The file of a path in a storage of its own. What is there but cannot be read counts as a folder. -/
def gather (path : Path) : IO Storage := do
  try
    let bytes ← IO.FS.readBinFile path.text
    return Storage.empty.place path (.file bytes.toList)
  catch error =>
    match error with
    | .noFileOrDirectory .. => return .empty
    | _ => return Storage.empty.place path .folder

def noEngine : SpeechSource :=
  fun _ => .error "sin motor de voz"

end DeskCalculator

open DeskCalculator in
def main (words : List String) : IO UInt32 := do
  let storage ← match CommandLine.parse words with
    | .run request =>
      match request.configPath with
      | some path => gather (Path.normal path)
      | none => pure .empty
    | _ => pure .empty
  let typed ← (← IO.getStdin).readBinToEnd
  let events := typed.toList.map fun byte => KeyEvent.code byte.toNat
  let report := Program.run storage words noEngine Machine.moments events
  for line in report.lines do
    IO.println line
  match report.exit with
  | none => return 0
  | some exit =>
    for line in exit.errorLines do
      IO.eprintln line
    return exit.code.toUInt32
