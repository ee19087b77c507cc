import DeskCalculator.Proofs.KeyComments
import DeskCalculator.Window

/-! The main loop as a fold over its key codes. Pictures are painted between the codes, and all that they
change is how long the message at the foot of the window still stays. So the loop ends in the state that the
codes before the first exit code lead to, one after the other. -/

namespace DeskCalculator.Keypad

/-! ### Codes -/

def isExit (code : Int) : Bool :=
  code ≠ -1 && (code % 256 = 27 || code % 256 = 'q'.toNat)

/-- The key that a code stands for by the key map, unless there is none or its identifier is empty. The
letter of the voice switch stands for no key. -/
def keyOf? (settings : Settings) (code : Int) : Option CodeText :=
  if code = -1 ∨ code % 256 = 'v'.toNat then none
  else (settings.keyFor? (code % 256)).filter (· ≠ [])

def reaction (keypad : Keypad) (code : Int) : Keypad × List String :=
  if code = -1 then (keypad, [])
  else if code % 256 = 'v'.toNat then (keypad.toggleVoice.keypad, keypad.toggleVoice.lines)
  else
    match keyOf? keypad.settings code with
    | none => (keypad, [])
    | some identifier =>
      match keypad.process identifier with
      | .ok handled => (handled.keypad, handled.lines)
      | .error _ => (keypad, [])

def heed (keypad : Keypad) (code : Int) : Keypad :=
  (keypad.reaction code).1

def follow (keypad : Keypad) (codes : List Int) : Keypad :=
  codes.foldl heed keypad

def console (keypad : Keypad) : List Int → List String
  | [] => []
  | code :: rest => (keypad.reaction code).2 ++ (keypad.heed code).console rest

theorem heed_settings (keypad : Keypad) (code : Int) :
    (keypad.heed code).settings = keypad.settings := by
  unfold heed reaction
  split
  · rfl
  · split
    · rfl
    · split
      · rfl
      · unfold process
        cases Key.ofIdentifier _ with
        | error error => rfl
        | ok key => exact (keypad.press_commented key).settings

theorem command_exit {code : Int} (settings : Settings) (leaving : isExit code = true) :
    command settings code = .leave := by
  obtain ⟨pressed, low⟩ : code ≠ -1 ∧ (code % 256 = 27 ∨ code % 256 = 'q'.toNat) := by
    simpa [isExit] using leaving
  unfold command noKey escapeCode
  rw [if_neg pressed]
  exact if_pos low

def Knows (settings : Settings) (code : Int) : Prop :=
  ∀ identifier, keyOf? settings code = some identifier →
    ∃ key, Key.ofIdentifier identifier = .ok key

theorem command_going {code : Int} (settings : Settings) (going : isExit code = false) :
    command settings code =
      if code = -1 then .idle
      else if code % 256 = 'v'.toNat then .toggleVoice
      else ((keyOf? settings code).map Command.key).getD .idle := by
  unfold command noKey escapeCode
  split
  · rfl
  · rename_i pressed
    have stays : ¬ (code % 256 = 27 ∨ code % 256 = 'q'.toNat) := by
      simpa [isExit, pressed] using going
    dsimp only
    rw [if_neg stays]
    split
    · rfl
    · rename_i other
      rw [keyOf?, if_neg (not_or.mpr ⟨pressed, other⟩)]
      cases settings.keyFor? (code % 256) with
      | none => rfl
      | some identifier => by_cases empty : identifier = [] <;> simp [empty, Option.filter]

/-- A code that does not end the loop is obeyed, unless its key is an error. -/
theorem obey_going (keypad : Keypad) {code : Int} (going : isExit code = false) :
    command keypad.settings code ≠ .leave ∧
    ((Knows keypad.settings code ∧
        keypad.obey (command keypad.settings code) = .ok (keypad.reaction code)) ∨
      (¬ Knows keypad.settings code ∧
        ∃ error, keypad.obey (command keypad.settings code) = .error error)) := by
  rw [command_going _ going]
  unfold reaction
  split
  · rename_i idle
    exact ⟨by decide, .inl ⟨by simp [Knows, keyOf?, idle], rfl⟩⟩
  · split
    · rename_i voice
      exact ⟨by decide, .inl ⟨by simp [Knows, keyOf?, voice], rfl⟩⟩
    · unfold Knows
      cases keyOf? keypad.settings code with
      | none => exact ⟨by decide, .inl ⟨by simp, rfl⟩⟩
      | some identifier =>
          refine ⟨Command.noConfusion, ?_⟩
          simp only [Option.map_some, Option.getD_some, obey, process, Option.some.injEq,
            forall_eq']
          cases Key.ofIdentifier identifier with
          | error error => exact .inr ⟨by simp, error, rfl⟩
          | ok key => exact .inl ⟨⟨key, rfl⟩, rfl⟩

/-! ### The time that a message has left -/

def withTimer (keypad : Keypad) (timer : Int) : Keypad :=
  { keypad with screen := { keypad.screen with
      feedback := { keypad.screen.feedback with timer := timer } } }

/-- A picture changes nothing but the time that the message has left. -/
theorem drawing_withTimer (keypad : Keypad) (moment : Moment) :
    ∃ timer, (keypad.drawing moment).1 = keypad.withTimer timer := by
  unfold drawing Screen.draw
  dsimp only
  split
  · exact ⟨keypad.screen.feedback.timer, rfl⟩
  · unfold Screen.drawFeedback Feedback.draw
    dsimp only
    split
    · exact ⟨keypad.screen.feedback.timer - 1, rfl⟩
    · exact ⟨keypad.screen.feedback.timer, rfl⟩

/-- A message that a key shows has its own time, and a key that shows none leaves the old one its. -/
theorem press_withTimer (keypad : Keypad) (timer : Int) (key : Key) :
    ∃ left, (keypad.withTimer timer).press key =
      { keypad.press key with keypad := (keypad.press key).keypad.withTimer left } := by
  have told : key.comment? (keypad.withTimer timer).session (keypad.withTimer timer).mode =
      key.comment? keypad.session keypad.mode := rfl
  rw [press_eq, press_eq, told]
  cases key.comment? keypad.session keypad.mode with
  | none => exact ⟨timer, rfl⟩
  | some comment => exact ⟨comment.duration.getD keypad.screen.feedbackDuration, rfl⟩

theorem reaction_withTimer (keypad : Keypad) (timer : Int) (code : Int) :
    ∃ left, (keypad.withTimer timer).reaction code =
      ((keypad.heed code).withTimer left, (keypad.reaction code).2) := by
  unfold heed reaction
  split
  · exact ⟨timer, rfl⟩
  · split
    · exact ⟨resultDuration, rfl⟩
    · have settings : (keypad.withTimer timer).settings = keypad.settings := rfl
      rw [settings]
      cases keyOf? keypad.settings code with
      | none => exact ⟨timer, rfl⟩
      | some identifier =>
          cases named : Key.ofIdentifier identifier with
          | error error =>
              simp only [process, named]
              exact ⟨timer, rfl⟩
          | ok key =>
              obtain ⟨left, pressed⟩ := keypad.press_withTimer timer key
              simp only [process, named, Except.map, pressed]
              exact ⟨left, rfl⟩

/-- Codes that stand for no key at all do nothing. -/
theorem follow_filter (keypad : Keypad) (codes : List Int) :
    keypad.follow (codes.filter (· ≠ -1)) = keypad.follow codes ∧
    keypad.console (codes.filter (· ≠ -1)) = keypad.console codes := by
  induction codes generalizing keypad with
  | nil => exact ⟨rfl, rfl⟩
  | cons code rest inductionHypothesis =>
      by_cases idle : code = -1
      · subst idle
        exact inductionHypothesis keypad
      · rw [List.filter_cons_of_pos (by simpa using idle)]
        obtain ⟨followed, written⟩ := inductionHypothesis (keypad.heed code)
        exact ⟨followed, congrArg ((keypad.reaction code).2 ++ ·) written⟩

theorem follow_alike (keypad : Keypad) {first second : List Int}
    (alike : first.filter (· ≠ -1) = second.filter (· ≠ -1)) :
    keypad.follow first = keypad.follow second ∧ keypad.console first = keypad.console second := by
  obtain ⟨followed, written⟩ := keypad.follow_filter first
  obtain ⟨followedToo, writtenToo⟩ := keypad.follow_filter second
  rw [← followed, ← written, alike]
  exact ⟨followedToo, writtenToo⟩

theorem going_alike {first second : List Int}
    (alike : first.filter (· ≠ -1) = second.filter (· ≠ -1))
    (going : ∀ code ∈ second, isExit code = false) : ∀ code ∈ first, isExit code = false := by
  intro code member
  by_cases idle : code = -1
  · rw [idle]
    rfl
  · have kept : code ∈ first.filter (· ≠ -1) := List.mem_filter.mpr ⟨member, by simpa using idle⟩
    rw [alike] at kept
    exact going code (List.mem_filter.mp kept).1

/-! ### Turns of the loop -/

/-- A picture shows a calculator, whose message may have been there for some time. -/
def Shows (moment : Moment) (keypad : Keypad) (frame : List DrawCall) : Prop :=
  ∃ timer, ((keypad.withTimer timer).picture moment).2 = .ok frame

theorem picture_ok {keypad : Keypad} {moment : Moment} {frame : List DrawCall}
    (painted : (keypad.picture moment).2 = .ok frame) :
    keypad.picture moment = ((keypad.drawing moment).1, .ok frame) := by
  unfold picture at painted ⊢
  split
  · rename_i fault failed
    rw [failed] at painted
    cases painted
  · rename_i created
    rw [created] at painted
    exact Prod.ext rfl painted

/-- Whatever comes after an exit code has no effect; it ends the loop as the last code does. -/
theorem loop_exit (keypad : Keypad) (moments : Moments) (before : List KeyEvent) {exit : Int}
    (leaving : isExit exit = true) (after : List KeyEvent) :
    keypad.loop moments (before ++ .code exit :: after) = keypad.loop moments before := by
  induction before generalizing keypad moments with
  | nil =>
      simp only [List.nil_append, loop, command_exit _ leaving, if_pos]
  | cons event rest inductionHypothesis =>
      cases event with
      | interrupt => rfl
      | failure text => rfl
      | code code => simp only [List.cons_append, loop, inductionHypothesis]

def turn (moment : Moment) (keypad : Keypad) (code : Int) : Keypad :=
  (keypad.drawing moment).1.heed code

def turns (keypad : Keypad) (moments : Moments) : List Int → Keypad
  | [] => keypad
  | code :: rest => (keypad.turn (moments 0) code).turns moments.next rest

theorem turn_settings (moment : Moment) (keypad : Keypad) (code : Int) :
    (keypad.turn moment code).settings = keypad.settings := by
  obtain ⟨timer, drawn⟩ := keypad.drawing_withTimer moment
  rw [turn, heed_settings, drawn]
  rfl

/-- A turn fails if the calculator cannot be painted or the key of the code is an error. -/
theorem loop_turn (keypad : Keypad) (moments : Moments) {code : Int} (going : isExit code = false)
    (rest : List KeyEvent) :
    (∃ frame, (keypad.picture (moments 0)).2 = .ok frame ∧ Knows keypad.settings code ∧
      keypad.loop moments (.code code :: rest) =
        Outcome.after frame ((keypad.drawing (moments 0)).1.reaction code).2
          ((keypad.turn (moments 0) code).loop moments.next rest)) ∨
    ((∃ message, (keypad.loop moments (.code code :: rest)).ending = .failed message) ∧
      ¬ ((∃ frame, (keypad.picture (moments 0)).2 = .ok frame) ∧ Knows keypad.settings code)) := by
  cases painted : (keypad.picture (moments 0)).2 with
  | error message =>
      have whole : keypad.picture (moments 0) = ((keypad.picture (moments 0)).1, .error message) :=
        Prod.ext rfl painted
      refine .inr ⟨⟨message, ?_⟩, fun both => nomatch both.1⟩
      rw [loop, whole]
  | ok frame =>
      have drawn := picture_ok painted
      obtain ⟨timer, same⟩ := keypad.drawing_withTimer (moments 0)
      have settings : (keypad.drawing (moments 0)).1.settings = keypad.settings := by
        rw [same]
        rfl
      obtain ⟨stays, obeyed | ⟨unknown, error, failed⟩⟩ := (keypad.drawing (moments 0)).1.obey_going going
      · refine .inl ⟨frame, rfl, settings ▸ obeyed.1, ?_⟩
        rw [loop, drawn]
        simp only [if_neg stays, obeyed.2]
        rfl
      · refine .inr ⟨⟨error.message, ?_⟩, fun both => unknown (settings ▸ both.2)⟩
        rw [loop, drawn]
        simp only [if_neg stays, failed]

/-- Every picture on the way can be painted, and every key is a key. -/
structure Undisturbed (keypad : Keypad) (moments : Moments) (codes : List Int) : Prop where
  painted : ∀ earlier, earlier <+: codes →
    ∃ frame, ((keypad.turns moments earlier).picture (moments earlier.length)).2 = .ok frame
  known : ∀ code ∈ codes, Knows keypad.settings code

theorem undisturbed_nil {keypad : Keypad} {moments : Moments} :
    keypad.Undisturbed moments [] ↔ ∃ frame, (keypad.picture (moments 0)).2 = .ok frame := by
  constructor
  · intro undisturbed
    exact undisturbed.painted [] List.nil_prefix
  · intro painted
    refine ⟨fun earlier before => ?_, nofun⟩
    rw [List.prefix_nil.mp before]
    exact painted

theorem undisturbed_cons {keypad : Keypad} {moments : Moments} {code : Int} {rest : List Int} :
    keypad.Undisturbed moments (code :: rest) ↔
      ((∃ frame, (keypad.picture (moments 0)).2 = .ok frame) ∧ Knows keypad.settings code) ∧
        (keypad.turn (moments 0) code).Undisturbed moments.next rest := by
  constructor
  · rintro ⟨painted, known⟩
    refine ⟨⟨painted [] List.nil_prefix, known code List.mem_cons_self⟩, ?_, ?_⟩
    · intro earlier before
      exact painted (code :: earlier) (List.cons_prefix_cons.mpr ⟨rfl, before⟩)
    · intro other member
      rw [turn_settings]
      exact known other (List.mem_cons_of_mem code member)
  · rintro ⟨⟨first, firstKnown⟩, painted, known⟩
    constructor
    · intro earlier before
      rcases List.prefix_cons_iff.mp before with rfl | ⟨later, rfl, beforeRest⟩
      · exact first
      · exact painted later beforeRest
    · intro other member
      rcases List.mem_cons.mp member with rfl | later
      · exact firstKnown
      · rw [← turn_settings (moments 0) keypad code]
        exact known other later

theorem loop_nil (keypad : Keypad) (moments : Moments) :
    (∃ frame, (keypad.picture (moments 0)).2 = .ok frame ∧
      keypad.loop moments [] = ⟨(keypad.drawing (moments 0)).1, .closed, [frame], []⟩) ∨
    (∃ message, (keypad.loop moments []).ending = .failed message) ∧
      ¬ ∃ frame, (keypad.picture (moments 0)).2 = .ok frame := by
  cases painted : (keypad.picture (moments 0)).2 with
  | error message =>
      have whole : keypad.picture (moments 0) = ((keypad.picture (moments 0)).1, .error message) :=
        Prod.ext rfl painted
      refine .inr ⟨⟨message, ?_⟩, nofun⟩
      rw [loop, whole]
  | ok frame =>
      refine .inl ⟨frame, rfl, ?_⟩
      rw [loop, picture_ok painted]

/-- The loop closes exactly if no turn fails. -/
theorem loop_closed_iff (keypad : Keypad) (moments : Moments) {codes : List Int}
    (going : ∀ code ∈ codes, isExit code = false) :
    (keypad.loop moments (codes.map .code)).ending = .closed ↔
      keypad.Undisturbed moments codes := by
  induction codes generalizing keypad moments with
  | nil =>
      rw [undisturbed_nil, List.map_nil]
      rcases keypad.loop_nil moments with ⟨frame, painted, closed⟩ | ⟨⟨message, failed⟩, unpainted⟩
      · rw [closed]
        exact ⟨fun _ => ⟨frame, painted⟩, fun _ => rfl⟩
      · rw [failed]
        exact ⟨nofun, fun painted => absurd painted unpainted⟩
  | cons code rest inductionHypothesis =>
      rw [undisturbed_cons, List.map_cons]
      rcases keypad.loop_turn moments (going code List.mem_cons_self) (rest.map .code) with
        ⟨frame, painted, known, turned⟩ | ⟨⟨message, failed⟩, disturbed⟩
      · rw [turned, and_iff_right ⟨⟨frame, painted⟩, known⟩]
        exact inductionHypothesis (keypad.turn (moments 0) code) moments.next
          fun other member => going other (List.mem_cons_of_mem code member)
      · rw [failed]
        exact ⟨nofun, fun undisturbed => absurd undisturbed.1 disturbed⟩

/-- What is left of a loop that closed: the state that the codes lead to, the lines of the codes, and
one picture before each code and before the end, of the state that the codes so far lead to. -/
structure Tells (start : Keypad) (moments : Moments) (codes : List Int) (outcome : Outcome) :
    Prop where
  keypad : ∃ timer, outcome.keypad = (start.follow codes).withTimer timer
  lines : outcome.lines = start.console codes
  count : outcome.frames.length = codes.length + 1
  frames : ∀ place frame, outcome.frames[place]? = some frame →
    (start.follow (codes.take place)).Shows (moments place) frame

theorem loop_tells (start : Keypad) (timer : Int) (moments : Moments) {codes : List Int}
    (going : ∀ code ∈ codes, isExit code = false)
    (closed : ((start.withTimer timer).loop moments (codes.map .code)).ending = .closed) :
    start.Tells moments codes ((start.withTimer timer).loop moments (codes.map .code)) := by
  -- The timer is general: each turn leaves the state of the codes alone with some time for the message.
  induction codes generalizing start timer moments with
  | nil =>
      rw [List.map_nil] at closed ⊢
      rcases (start.withTimer timer).loop_nil moments with
        ⟨frame, painted, ended⟩ | ⟨⟨_, failed⟩, _⟩
      · obtain ⟨left, drawn⟩ := (start.withTimer timer).drawing_withTimer (moments 0)
        rw [ended]
        refine ⟨⟨left, drawn⟩, rfl, rfl, ?_⟩
        intro place shown found
        cases place with
        | zero =>
            cases found
            exact ⟨timer, painted⟩
        | succ place => cases found
      · rw [failed] at closed
        cases closed
  | cons code rest inductionHypothesis =>
      rw [List.map_cons] at closed ⊢
      rcases (start.withTimer timer).loop_turn moments (going code List.mem_cons_self)
        (rest.map .code) with ⟨frame, painted, _, turned⟩ | ⟨⟨_, failed⟩, _⟩
      · obtain ⟨shownTimer, drawn⟩ :
            ∃ left, ((start.withTimer timer).drawing (moments 0)).1 = start.withTimer left :=
          (start.withTimer timer).drawing_withTimer (moments 0)
        obtain ⟨left, reacted⟩ := start.reaction_withTimer shownTimer code
        have next :
            (start.withTimer timer).turn (moments 0) code = (start.heed code).withTimer left := by
          rw [turn, drawn]
          exact congrArg Prod.fst reacted
        rw [turned, next, drawn, reacted] at closed ⊢
        obtain ⟨keypad, lines, count, frames⟩ := inductionHypothesis (start.heed code) left moments.next
          (fun other member => going other (List.mem_cons_of_mem code member)) closed
        refine ⟨keypad, congrArg ((start.reaction code).2 ++ ·) lines, congrArg (· + 1) count, ?_⟩
        intro place shown found
        cases place with
        | zero =>
            cases found
            exact ⟨timer, painted⟩
        | succ place => exact frames place shown found
      · rw [failed] at closed
        cases closed

theorem run_tells {keypad : Keypad} {moments : Moments} {codes : List Int} {exit : Int}
    {after : List KeyEvent} (going : ∀ code ∈ codes, isExit code = false)
    (leaving : isExit exit = true)
    (closed : (keypad.run moments (codes.map .code ++ .code exit :: after)).ending = .closed) :
    keypad.Tells moments codes (keypad.loop moments (codes.map .code)) ∧
    keypad.run moments (codes.map .code ++ .code exit :: after) =
      { keypad.loop moments (codes.map .code) with
        lines := welcome keypad.speech.enabled ++ keypad.console codes ++ farewell } := by
  unfold run at closed ⊢
  rw [keypad.loop_exit moments (codes.map .code) leaving] at closed ⊢
  have tells : keypad.Tells moments codes (keypad.loop moments (codes.map .code)) :=
    keypad.loop_tells keypad.screen.feedback.timer moments going closed
  refine ⟨tells, ?_⟩
  change (keypad.loop moments (codes.map .code)).ending = .closed at closed
  simp only [closed, if_true, tells.lines]

/-- Codes up to the first exit code, and anything after it; each picture has its own time, frame and widths
of texts. The loop closes exactly if no turn of it fails, and what comes after the exit code has no effect.
Painting changes nothing but how long the message still stays. So a loop that closes leaves the session,
the waiting memory key and the speech as the codes alone make them, one after the other, and has shown one
picture before each code and before the exit, each of the state that the codes before it lead to. More or
fewer turns without a key change the number of pictures and how long the message stays, and nothing else,
whatever the moments of their pictures are. -/
theorem loop_folds_codes (keypad : Keypad) (moments : Moments) (before : List Int) (exit : Int)
    (after : List KeyEvent) (going : ∀ code ∈ before, isExit code = false)
    (leaving : isExit exit = true) :
    let outcome := keypad.run moments (before.map .code ++ .code exit :: after)
    let folded := keypad.follow before
    (outcome.ending = .closed ↔ keypad.Undisturbed moments before) ∧
    (∀ others, keypad.run moments (before.map .code ++ .code exit :: others) = outcome) ∧
    (∀ (shown : Keypad) (moment : Moment),
      ∃ timer, (shown.drawing moment).1 = shown.withTimer timer) ∧
    (outcome.ending = .closed →
      outcome.keypad.session = folded.session ∧ outcome.keypad.mode = folded.mode ∧
      outcome.keypad.speech = folded.speech ∧
      outcome.frames.length = before.length + 1 ∧
      (∀ place frame, outcome.frames[place]? = some frame →
        (keypad.follow (before.take place)).Shows (moments place) frame) ∧
      ∀ (padded : List Int) (others : Moments),
        padded.filter (· ≠ -1) = before.filter (· ≠ -1) →
        let longer := keypad.run others (padded.map .code ++ .code exit :: after)
        longer.ending = .closed →
          (∃ timer, longer.keypad = outcome.keypad.withTimer timer) ∧
          longer.lines = outcome.lines ∧
          longer.frames.length = padded.length + 1 ∧
          ∀ place other, (padded.take place).filter (· ≠ -1) = (before.take other).filter (· ≠ -1) →
            ∀ frame, longer.frames[place]? = some frame →
              (keypad.follow (before.take other)).Shows (others place) frame) := by
  intro outcome folded
  have ended (others : List KeyEvent) :
      keypad.loop moments (before.map .code ++ .code exit :: others) =
        keypad.loop moments (before.map .code) := keypad.loop_exit moments _ leaving others
  refine ⟨?_, ?_, drawing_withTimer, ?_⟩
  · rw [← keypad.loop_closed_iff moments going, ← ended after]
    rfl
  · intro others
    simp only [outcome, run, ended]
  · intro closed
    obtain ⟨tells, same⟩ := run_tells going leaving closed
    have outcomeIs : outcome = _ := same
    obtain ⟨timer, final⟩ := tells.keypad
    rw [outcomeIs]
    refine ⟨?_, ?_, ?_, tells.count, tells.frames, ?_⟩
    · rw [final]
      rfl
    · rw [final]
      rfl
    · rw [final]
      rfl
    · intro padded others alike longer longerClosed
      obtain ⟨longerTells, longerSame⟩ :=
        run_tells (going_alike alike going) leaving longerClosed
      have longerIs : longer = _ := longerSame
      obtain ⟨longerTimer, longerFinal⟩ := longerTells.keypad
      obtain ⟨followed, written⟩ := keypad.follow_alike alike
      rw [longerIs]
      refine ⟨⟨longerTimer, ?_⟩, ?_, longerTells.count, ?_⟩
      · rw [longerFinal, final, followed]
        rfl
      · simp only [written]
      · intro place other soFar frame found
        rw [← (keypad.follow_alike soFar).1]
        exact longerTells.frames place frame found

/-- A sum typed with idle turns in between, one code with more than eight bits, and a digit after the
escape key. -/
theorem loop_folds_sum :
    let keypad := (start { feedbackDuration := 0 } fun _ => .error "mute").1
    let outcome := keypad.run .sample ([53, -1, 43, 307].map .code ++ .code 27 :: [.code 57])
    let longer := keypad.run .sample ([-1, 53, 43, -1, -1, 307].map .code ++ .code 27 :: [.code 57])
    outcome.ending = .closed ∧ longer.ending = .closed ∧
      outcome.keypad.session.entry = some ['3'] ∧
      outcome.frames.length = 5 ∧ longer.frames.length = 7 ∧
      ∃ timer, longer.keypad = outcome.keypad.withTimer timer := by
  intro keypad outcome longer
  have closed : outcome.ending = .closed := by decide +kernel
  have longerClosed : longer.ending = .closed := by decide +kernel
  obtain ⟨_, _, _, told⟩ := loop_folds_codes keypad .sample [53, -1, 43, 307] 27 [.code 57]
    (by decide) (by decide)
  obtain ⟨session, _, _, count, _, padding⟩ := told closed
  obtain ⟨same, _, longerCount, _⟩ :=
    padding [-1, 53, 43, -1, -1, 307] .sample (by decide) longerClosed
  refine ⟨closed, longerClosed, ?_, count, longerCount, same⟩
  rw [session]
  decide +kernel

end DeskCalculator.Keypad
