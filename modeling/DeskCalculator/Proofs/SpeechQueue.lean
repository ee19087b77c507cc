import Mathlib.Algebra.GroupWithZero.Nat
import DeskCalculator.Speech.Basic

/-! The queue between those who speak and the worker who says what was spoken, under any order of their
steps. There is a worker exactly as long as speech is marked as going on, so no message waits for
nobody. What was said, what the worker has in its hand and what waits are the spoken messages in
their order, but for those that a full queue lost. -/

namespace DeskCalculator

namespace Playback

/-- The message that a worker has taken out of the queue and not yet given to the engine. -/
def inHand (playback : Playback) : List String :=
  playback.workers.flatMap fun worker =>
    match worker with
    | .holding message => [message]
    | _ => []

def without (positions : List Nat) (messages : List String) : List String :=
  (messages.zipIdx.filter fun entry => entry.2 ∉ positions).map Prod.fst

theorem without_append (positions : List Nat) (first second : List String) :
    without positions (first ++ second) =
      without positions first ++
        ((second.zipIdx first.length).filter fun entry => entry.2 ∉ positions).map Prod.fst := by
  simp only [without, List.zipIdx_append, Nat.zero_add, List.filter_append, List.map_append]

theorem without_append_of_lt {positions : List Nat} {first : List String}
    (earlier : ∀ position ∈ positions, position < first.length) (second : List String) :
    without positions (first ++ second) = without positions first ++ second := by
  have kept : (second.zipIdx first.length).filter (fun entry => entry.2 ∉ positions) =
      second.zipIdx first.length := by
    apply List.filter_eq_self.mpr
    intro entry member
    have later := List.le_snd_of_mem_zipIdx member
    rw [decide_eq_true_eq]
    intro lost
    have before := earlier entry.2 lost
    omega
  rw [without_append, kept, List.zipIdx_map_fst]

theorem without_later (positions : List Nat) (messages : List String) {position : Nat}
    (later : messages.length ≤ position) :
    without (positions ++ [position]) messages = without positions messages := by
  unfold without
  apply congrArg (List.map Prod.fst)
  apply List.filter_congr
  intro entry member
  have before := List.snd_lt_of_mem_zipIdx member
  have different : entry.2 ≠ position := by omega
  simp [different]

theorem enqueue_full {oldest message : String} {rest : List String}
    (full : (oldest :: rest).length = capacity) :
    enqueue (oldest :: rest) message = rest ++ [message] := by
  have one : (oldest :: rest).length + 1 - capacity = 1 := by omega
  rw [enqueue, one]
  rfl

theorem enqueue_room {waiting : List String} (room : waiting.length < capacity)
    (message : String) : enqueue waiting message = waiting ++ [message] := by
  have none : waiting.length + 1 - capacity = 0 := by omega
  rw [enqueue, none, List.drop_zero]

theorem length_enqueue_le {waiting : List String} (message : String)
    (bounded : waiting.length ≤ capacity) : (enqueue waiting message).length ≤ capacity := by
  rw [enqueue, List.length_drop, List.length_append, List.length_singleton]
  omega

/-- The place of the message that a full queue loses: all that were spoken before it have left the
queue, so it is the oldest one there. -/
def pushedOut (spoken waiting : Nat) : List Nat :=
  if waiting = capacity then [spoken - waiting] else []

theorem without_enqueue {positions : List Nat} (earlier waiting : List String) (message : String)
    (before : ∀ position ∈ positions, position < earlier.length)
    (bounded : waiting.length ≤ capacity) :
    let lost := positions ++ pushedOut (earlier ++ waiting).length waiting.length
    ∃ left, earlier ++ waiting ++ [message] = left ++ enqueue waiting message ∧
      (∀ position ∈ lost, position < left.length) ∧
      without lost left = without positions earlier := by
  by_cases full : waiting.length = capacity
  · obtain ⟨oldest, rest, same⟩ := List.exists_cons_of_length_pos
      (show 0 < waiting.length by rw [full]; decide)
    subst same
    have place : pushedOut (earlier ++ oldest :: rest).length (oldest :: rest).length =
        [earlier.length] := by
      rw [pushedOut, if_pos full, List.length_append, Nat.add_sub_cancel]
    rw [place, enqueue_full full]
    refine ⟨earlier ++ [oldest], by simp, ?_, ?_⟩
    · intro position lost
      rw [List.length_append, List.length_singleton]
      rcases List.mem_append.mp lost with old | new
      · exact Nat.lt_add_right 1 (before position old)
      · rw [List.mem_singleton.mp new]
        exact Nat.lt_succ_self _
    · rw [without_append, without_later positions earlier (Nat.le_refl _)]
      simp
  · rw [pushedOut, if_neg full, List.append_nil, enqueue_room (by omega)]
    exact ⟨earlier, List.append_assoc _ _ _, before, rfl⟩

/-! ### Workers -/

inductive Step (playback : Playback) : Worker → Playback → Prop
  | start : Step playback .starting { playback with workers := [.ready] }
  | leave : playback.waiting = [] →
      Step playback .ready { playback with speaking := false, workers := [] }
  | take (message : String) (rest : List String) : playback.waiting = message :: rest →
      Step playback .ready { playback with waiting := rest, workers := [.holding message] }
  | say (message : String) :
      Step playback (.holding message)
        { playback with workers := [.saying message], said := playback.said ++ [message] }
  | finish (message : String) :
      Step playback (.saying message) { playback with workers := [.ready] }

theorem advance_only {playback : Playback} {worker : Worker} (only : playback.workers = [worker]) :
    playback.Step worker (playback.advance 0) := by
  obtain ⟨waiting, speaking, workers, calls, said⟩ := playback
  change workers = [worker] at only
  subst only
  cases worker with
  | starting => exact .start
  | holding message => exact .say message
  | saying message => exact .finish message
  | ready =>
      cases waiting with
      | nil => exact .leave rfl
      | cons message rest => exact .take message rest rfl

theorem advance_absent {playback : Playback} {index : Nat}
    (absent : playback.workers[index]? = none) : playback.advance index = playback := by
  unfold advance
  rw [absent]

/-- A worker is called when speech begins to go on, and goes when it stops. -/
inductive Staffed (playback : Playback) : Prop
  | silent : playback.speaking = false → playback.workers = [] → playback.waiting = [] →
      Staffed playback
  | working (worker : Worker) : playback.speaking = true → playback.workers = [worker] →
      Staffed playback

section Staffed

variable {playback : Playback} (staffed : playback.Staffed)
include staffed

theorem Staffed.speaking_iff :
    playback.speaking = true ↔ ∃ worker, playback.workers = [worker] := by
  cases staffed with
  | silent still idle empty => simp [still, idle]
  | working worker speaking only => simp [speaking, only]

theorem Staffed.length_workers_le : playback.workers.length ≤ 1 := by
  cases staffed with
  | silent still idle empty => simp [idle]
  | working worker speaking only => simp [only]

theorem Staffed.speaking_of_waiting (waits : playback.waiting ≠ []) :
    playback.speaking = true := by
  cases staffed with
  | silent still idle empty => exact absurd empty waits
  | working worker speaking only => exact speaking

theorem Staffed.waiting_of_idle (nobody : playback.workers = []) : playback.waiting = [] := by
  cases staffed with
  | silent still idle empty => exact empty
  | working worker speaking only =>
      rw [only] at nobody
      cases nobody

end Staffed

theorem Staffed.advance_cases {playback : Playback} (staffed : playback.Staffed) (index : Nat) :
    playback.advance index = playback ∨
      ∃ worker, playback.speaking = true ∧ playback.workers = [worker] ∧
        playback.Step worker (playback.advance index) := by
  cases staffed with
  | silent still idle empty => exact .inl (advance_absent (by rw [idle]; rfl))
  | working worker speaking only =>
      cases index with
      | succ index => exact .inl (advance_absent (by rw [only]; rfl))
      | zero => exact .inr ⟨worker, speaking, only, advance_only only⟩

theorem Staffed.accept {playback : Playback} (staffed : playback.Staffed) (message : String) :
    (playback.accept message).Staffed := by
  unfold Playback.accept
  cases staffed with
  | silent still idle empty =>
      rw [if_neg (by rw [still]; decide)]
      exact .working .starting rfl (by simp [idle])
  | working worker speaking only =>
      rw [if_pos speaking]
      exact .working worker speaking only

theorem accept_messages (playback : Playback) (message : String) :
    (playback.accept message).waiting = enqueue playback.waiting message ∧
    (playback.accept message).said ++ (playback.accept message).inHand =
      playback.said ++ playback.inHand := by
  unfold accept
  by_cases speaking : playback.speaking = true
  · rw [if_pos speaking]
    exact ⟨rfl, rfl⟩
  · rw [if_neg speaking]
    exact ⟨rfl, by simp [inHand]⟩

theorem Staffed.step {playback after : Playback} {worker : Worker}
    (speaking : playback.speaking = true) (step : playback.Step worker after) : after.Staffed := by
  cases step with
  | start => exact .working .ready speaking rfl
  | leave empty => exact .silent rfl rfl empty
  | take message rest waits => exact .working (.holding message) speaking rfl
  | say message => exact .working (.saying message) speaking rfl
  | finish message => exact .working .ready speaking rfl

theorem Staffed.advance {playback : Playback} (staffed : playback.Staffed) (index : Nat) :
    (playback.advance index).Staffed := by
  rcases staffed.advance_cases index with unchanged | ⟨worker, speaking, _, step⟩
  · rw [unchanged]
    exact staffed
  · exact .step speaking step

/-- The messages that the worker has said, has in its hand, and will find in the queue. -/
def unbroken (playback : Playback) : List String :=
  playback.said ++ playback.inHand ++ playback.waiting

/-- A step takes the oldest message out of the queue, or moves no message past the worker's hand. -/
theorem step_messages {playback after : Playback} {worker : Worker}
    (only : playback.workers = [worker]) (step : playback.Step worker after) :
    (after.waiting = playback.waiting ∧
      after.said ++ after.inHand = playback.said ++ playback.inHand) ∨
    ∃ message, playback.waiting = message :: after.waiting ∧
      after.said ++ after.inHand = playback.said ++ playback.inHand ++ [message] := by
  cases step with
  | start => exact .inl ⟨rfl, by simp [inHand, only]⟩
  | leave empty => exact .inl ⟨rfl, by simp [inHand, only]⟩
  | say message => exact .inl ⟨rfl, by simp [inHand, only]⟩
  | finish message => exact .inl ⟨rfl, by simp [inHand, only]⟩
  | take message rest waits => exact .inr ⟨message, waits, by simp [inHand, only]⟩

theorem unbroken_step {playback after : Playback} {worker : Worker}
    (only : playback.workers = [worker]) (step : playback.Step worker after) :
    after.unbroken = playback.unbroken := by
  unfold unbroken
  rcases step_messages only step with ⟨waiting, moved⟩ | ⟨message, waiting, moved⟩
  · rw [moved, waiting]
  · rw [moved, waiting, List.append_assoc _ [message]]
    rfl

def effort : Worker → Nat
  | .starting => 2
  | .ready => 1
  | .holding _ => 3
  | .saying _ => 2

def remaining (playback : Playback) : Nat :=
  3 * playback.waiting.length + (playback.workers.map effort).sum

theorem remaining_step {playback after : Playback} {worker : Worker}
    (only : playback.workers = [worker]) (step : playback.Step worker after) :
    after.remaining < playback.remaining := by
  cases step with
  | start => simp [remaining, effort, only]
  | leave empty => simp [remaining, effort, only]
  | take message rest waits => simp [remaining, effort, only, waits]; omega
  | say message => simp [remaining, effort, only]
  | finish message => simp [remaining, effort, only]

structure Finished (playback : Playback) (messages : List String) : Prop where
  idle : playback.workers = []
  empty : playback.waiting = []
  said : playback.said = messages

/-- A worker left to itself goes when it has said all messages, whatever the engine fails at. -/
theorem Staffed.work {playback : Playback} (staffed : playback.Staffed)
    (sayFailure : Nat → String → Option String) (count : Nat)
    (enough : playback.remaining ≤ count) :
    (Playback.work sayFailure false count playback).1.Finished playback.unbroken := by
  -- Each step takes one off what remains, so the worker goes before the count is used up.
  induction count generalizing playback with
  | zero =>
      cases staffed with
      | silent still idle empty =>
          refine ⟨idle, empty, ?_⟩
          simp [Playback.work, unbroken, inHand, idle, empty]
      | working worker speaking only => cases worker <;> simp [remaining, effort, only] at enough
  | succ count inductionHypothesis =>
      change (Playback.work sayFailure false count (playback.advance 0)).1.Finished _
      cases staffed with
      | silent still idle empty =>
          rw [advance_absent (by rw [idle]; rfl)]
          apply inductionHypothesis (.silent still idle empty)
          simp [remaining, idle, empty]
      | working worker speaking only =>
          have step := advance_only only
          have fewer := remaining_step only step
          rw [← unbroken_step only step]
          exact inductionHypothesis (.step speaking step) (by omega)

theorem Staffed.settle {playback : Playback} (staffed : playback.Staffed)
    (sayFailure : Nat → String → Option String) :
    (playback.settle sayFailure false).1.Finished playback.unbroken := by
  apply staffed.work
  cases staffed with
  | silent still idle empty => simp [remaining, idle, empty]
  | working worker speaking only =>
      cases worker <;> simp [remaining, effort, stepBound, only]

end Playback

/-! ### What was spoken and what was lost -/

namespace Speech

inductive Turn where
  | speak (message : String)
  | work (worker : Nat)
deriving DecidableEq, Repr

def turn (speech : Speech) : Turn → Speech
  | .speak message => (speech.speak message).1
  | .work worker => { speech with playback := speech.playback.advance worker }

/-- Speech with its past. `evicted` lists the places, among the messages spoken, of those that a full
queue lost: each was the oldest one in the queue when another message came. -/
structure Watched where
  speech : Speech
  spoken : List String
  evicted : List Nat

theorem speak_ready {speech : Speech} {engine : SpeechEngine} (enabled : speech.enabled = true)
    (present : speech.engine = some engine) (message : String) :
    (speech.speak message).1 = { speech with playback := speech.playback.accept message } := by
  simp [speak, enqueue, enabled, present]

namespace Watched

def next (watched : Watched) : Turn → Watched
  | .work worker => { watched with speech := watched.speech.turn (.work worker) }
  | .speak message =>
    { speech := watched.speech.turn (.speak message)
      spoken := watched.spoken ++ [message]
      evicted :=
        watched.evicted ++
          Playback.pushedOut watched.spoken.length watched.speech.playback.waiting.length }

/-- `earlier` are the messages that have left the queue. -/
structure Sound (watched : Watched) (engine : SpeechEngine) : Prop where
  enabled : watched.speech.enabled = true
  engine : watched.speech.engine = some engine
  staffed : watched.speech.playback.Staffed
  bounded : watched.speech.playback.waiting.length ≤ Playback.capacity
  ordered : ∃ earlier, watched.spoken = earlier ++ watched.speech.playback.waiting ∧
    (∀ position ∈ watched.evicted, position < earlier.length) ∧
    watched.speech.playback.said ++ watched.speech.playback.inHand =
      Playback.without watched.evicted earlier

theorem Sound.work {watched : Watched} {engine : SpeechEngine} (sound : watched.Sound engine)
    (worker : Nat) : (watched.next (.work worker)).Sound engine := by
  have staffed := sound.staffed.advance worker
  rcases sound.staffed.advance_cases worker with unchanged | ⟨present, _, only, step⟩
  · rw [next, Speech.turn, unchanged]
    exact sound
  · obtain ⟨earlier, spoken, before, said⟩ := sound.ordered
    rcases Playback.step_messages only step with ⟨waiting, moved⟩ | ⟨message, waiting, moved⟩
    · refine ⟨sound.enabled, sound.engine, staffed, ?_, earlier, ?_, before, moved.trans said⟩
      · exact waiting ▸ sound.bounded
      · exact spoken.trans (congrArg (earlier ++ ·) waiting.symm)
    · refine ⟨sound.enabled, sound.engine, staffed, ?_, earlier ++ [message], ?_, ?_, ?_⟩
      · have bounded := sound.bounded
        rw [waiting, List.length_cons] at bounded
        exact Nat.le_of_succ_le bounded
      · rw [List.append_assoc]
        exact spoken.trans (congrArg (earlier ++ ·) waiting)
      · intro position lost
        rw [List.length_append]
        exact Nat.lt_add_right 1 (before position lost)
      · refine moved.trans ?_
        rw [said]
        exact (Playback.without_append_of_lt before [message]).symm

theorem Sound.speak {watched : Watched} {engine : SpeechEngine} (sound : watched.Sound engine)
    (message : String) : (watched.next (.speak message)).Sound engine := by
  have accepted : watched.speech.turn (.speak message) =
      { watched.speech with playback := watched.speech.playback.accept message } :=
    speak_ready sound.enabled sound.engine message
  obtain ⟨waiting, unmoved⟩ := Playback.accept_messages watched.speech.playback message
  obtain ⟨earlier, spoken, before, said⟩ := sound.ordered
  obtain ⟨left, spokenNow, beforeNow, same⟩ :=
    Playback.without_enqueue earlier _ message before sound.bounded
  rw [next, accepted, spoken]
  refine ⟨sound.enabled, sound.engine, sound.staffed.accept message, ?_, left, ?_, ?_, ?_⟩
  · exact waiting ▸ Playback.length_enqueue_le message sound.bounded
  · exact spokenNow.trans (congrArg (left ++ ·) waiting.symm)
  · exact beforeNow
  · exact unmoved.trans (said.trans same.symm)

theorem Sound.watch {watched : Watched} {engine : SpeechEngine} (sound : watched.Sound engine)
    (turns : List Turn) : (turns.foldl next watched).Sound engine := by
  induction turns generalizing watched with
  | nil => exact sound
  | cons turn rest inductionHypothesis =>
      cases turn with
      | speak message => exact inductionHypothesis (sound.speak message)
      | work worker => exact inductionHypothesis (sound.work worker)

end Watched

def watch (speech : Speech) (turns : List Turn) : Watched :=
  turns.foldl Watched.next ⟨speech, [], []⟩

/-- However speakers and workers take turns, there is one worker while speech goes on and none
otherwise, no message waits without a worker, and no more than five wait. What has been said, what
the worker has in its hand and what waits are the messages spoken, in their order, without those
that a sixth one pushed out; left to itself the worker says all of them, though the engine may fail. -/
theorem messages_said_in_order (speech : Speech) (engine : SpeechEngine)
    (enabled : speech.enabled = true) (present : speech.engine = some engine)
    (silent : speech.playback = .silent) (turns : List Turn) :
    let watched := speech.watch turns
    let playback := watched.speech.playback
    ((playback.speaking = true ↔ ∃ worker, playback.workers = [worker]) ∧
      playback.workers.length ≤ 1) ∧
    ((playback.waiting ≠ [] → playback.speaking = true) ∧
      (playback.workers = [] → playback.waiting = [])) ∧
    playback.waiting.length ≤ 5 ∧
    playback.waiting = watched.spoken.drop (watched.spoken.length - playback.waiting.length) ∧
    playback.said ++ playback.inHand ++ playback.waiting =
      Playback.without watched.evicted watched.spoken ∧
    (watched.speech.settle false).1.playback.Finished
      (Playback.without watched.evicted watched.spoken) := by
  intro watched playback
  have start : Watched.Sound ⟨speech, [], []⟩ engine := by
    refine ⟨enabled, present, ?_, ?_, [], ?_⟩
    · rw [silent]
      exact .silent rfl rfl rfl
    · rw [silent]
      decide
    · rw [silent]
      exact ⟨rfl, by simp, rfl⟩
  have sound : watched.Sound engine := start.watch turns
  obtain ⟨earlier, spoken, before, said⟩ := sound.ordered
  have unbroken : playback.unbroken = Playback.without watched.evicted watched.spoken := by
    rw [spoken, Playback.without_append_of_lt before, ← said]
    rfl
  have settled : (watched.speech.settle false).1.playback =
      (playback.settle engine.sayFailure false).1 := by
    unfold settle
    rw [sound.engine]
  refine ⟨?_, ?_, sound.bounded, ?_, unbroken, ?_⟩
  · exact ⟨sound.staffed.speaking_iff, sound.staffed.length_workers_le⟩
  · exact ⟨sound.staffed.speaking_of_waiting, sound.staffed.waiting_of_idle⟩
  · rw [spoken, List.length_append, Nat.add_sub_cancel, List.drop_left]
  · rw [settled, ← unbroken]
    exact sound.staffed.settle engine.sayFailure

/-- The second of seven messages is lost while the first one is said, and the engine fails at the
third one. -/
theorem messages_said_but_one :
    let failing (_ : Nat) (message : String) := if message = "3" then some "mute" else none
    let engine : SpeechEngine := ⟨.ok [], fun _ => none, failing⟩
    let speech : Speech :=
      ⟨fun _ => .error "no other engine", .whole 1, 150, [], true, 0, some engine, .silent⟩
    let turns := [.speak "1", .work 0, .work 0, .work 0] ++
      ["2", "3", "4", "5", "6", "7"].map Turn.speak
    (speech.watch turns).evicted = [1] ∧
      ((speech.watch turns).speech.settle false).1.playback.said = ["1", "3", "4", "5", "6", "7"] := by
  intro failing engine speech turns
  have finished := (messages_said_in_order speech engine rfl rfl rfl turns).2.2.2.2.2
  have lost : (speech.watch turns).evicted = [1] := by decide +kernel
  refine ⟨lost, finished.said.trans ?_⟩
  rw [lost]
  decide +kernel

end Speech
end DeskCalculator
