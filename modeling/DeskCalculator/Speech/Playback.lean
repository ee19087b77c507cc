/-! The queue of messages and the workers that say them. Speaking and working take turns in any order:
`accept` puts a message into the queue and calls a worker unless one is at work; `advance` is the next
step of one worker. A full queue loses its oldest message. -/

namespace DeskCalculator

/-- A worker has been called, is about to look into the queue, holds a message, or is saying one. -/
inductive Worker where
  | starting
  | ready
  | holding (message : String)
  | saying (message : String)
deriving DecidableEq, Repr

/-- `speaking` tells a speaker that no worker need be called. `workers` lists the workers that have been
called and have not gone, `calls` counts all of them, and `said` lists the messages handed to the
engine, the first one first. -/
structure Playback where
  waiting : List String
  speaking : Bool
  workers : List Worker
  calls : Nat
  said : List String

namespace Playback

def capacity : Nat := 5

def silent : Playback := ⟨[], false, [], 0, []⟩

def enqueue (waiting : List String) (message : String) : List String :=
  (waiting ++ [message]).drop (waiting.length + 1 - capacity)

def accept (playback : Playback) (message : String) : Playback :=
  let queued := { playback with waiting := enqueue playback.waiting message }
  if playback.speaking then queued
  else
    { queued with
      speaking := true
      workers := playback.workers ++ [.starting]
      calls := playback.calls + 1 }

def replaceWorker (playback : Playback) (index : Nat) (worker : Worker) : Playback :=
  { playback with workers := playback.workers.set index worker }

/-- A worker that finds the queue empty goes. -/
def take (playback : Playback) (index : Nat) : Playback :=
  match playback.waiting with
  | [] => { playback with speaking := false, workers := playback.workers.eraseIdx index }
  | message :: rest => { playback.replaceWorker index (.holding message) with waiting := rest }

/-- A failure of the engine ends the message like a success. -/
def advance (playback : Playback) (index : Nat) : Playback :=
  match playback.workers[index]? with
  | none => playback
  | some .starting => playback.replaceWorker index .ready
  | some .ready => playback.take index
  | some (.holding message) =>
    { playback.replaceWorker index (.saying message) with said := playback.said ++ [message] }
  | some (.saying _) => playback.replaceWorker index .ready

def sayFailureText (error : String) : String :=
  "⚠ Error al reproducir voz: " ++ error

def stepLines (playback : Playback) (sayFailure : Nat → String → Option String) : List String :=
  match playback.workers with
  | .saying message :: _ =>
    ((sayFailure (playback.said.length - 1) message).map sayFailureText).toList
  | _ => []

def isSaying (playback : Playback) : Bool :=
  match playback.workers with
  | .saying _ :: _ => true
  | _ => false

/-- Steps of the first worker, at most `count`; an engine that is held does not finish a message. -/
def work (sayFailure : Nat → String → Option String) (held : Bool) :
    Nat → Playback → Playback × List String
  | 0, playback => (playback, [])
  | count + 1, playback =>
    if held && playback.isSaying then (playback, [])
    else
      let (finished, lines) := work sayFailure held count (playback.advance 0)
      (finished, playback.stepLines sayFailure ++ lines)

/-- A message takes three steps, and so does a worker besides. -/
def stepBound (playback : Playback) : Nat :=
  3 * playback.waiting.length + 3 * playback.workers.length

def settle (playback : Playback) (sayFailure : Nat → String → Option String) (held : Bool) :
    Playback × List String :=
  work sayFailure held playback.stepBound playback

end Playback
end DeskCalculator
