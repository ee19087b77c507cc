import DeskCalculator.Program
import DeskCalculator.Proofs.MainLoop
import DeskCalculator.Proofs.Rounding
import DeskCalculator.Proofs.SettingsLoading

/-! Runs with loaded settings. Settings are taken over by their kinds alone, so the window may have sides
for which the machine has no frame; then the run ends with an error before its first picture. With a frame
for each picture it goes on until it is left, as long as messages last no longer than doubles can count and
the keys that are pressed are keys. -/

namespace DeskCalculator

/-! ### Messages that can be painted -/

namespace Feedback

def colors : List Color :=
  [green, Keypad.red, Keypad.cyan, Keypad.lightGreen, Keypad.orange]

def colorsFade (strength : Float) : Bool :=
  colors.all fun color => (fadedColor strength color).isOk

theorem colorsFade_fade (remaining : Nat) : colorsFade (fade remaining) = true := by
  have full : colorsFade 1 = true := by decide +kernel
  have partly : ∀ remaining < 20, colorsFade (Float.ofNat remaining / 20) = true := by
    decide +kernel
  exact @fade_of_parts (fun strength => colorsFade strength = true) full partly remaining

theorem fadedColor_of_mem (remaining : Nat) {color : Color} (known : color ∈ colors) :
    ∃ faint, fadedColor (fade remaining) color = .ok faint := by
  have fades := List.all_eq_true.mp (colorsFade_fade remaining) color known
  cases faded : fadedColor (fade remaining) color with
  | error error =>
      rw [faded] at fades
      cases fades
  | ok faint => exact ⟨faint, rfl⟩

theorem strength_of_ofInt? {remaining : Nat} {double : Float}
    (counts : Binary64.ofInt? remaining = some double) : strength remaining = .ok (fade remaining) := by
  -- Unfolded before it is applied, as the kernel would else compute what the match looks at.
  generalize unfolded : strength = function
  delta strength at unfolded
  rw [← unfolded]
  beta_reduce
  rw [counts]

/-- A message in one of these colours whose pictures doubles can count. -/
structure Paintable (feedback : Feedback) : Prop where
  color : feedback.color ∈ colors
  timer : feedback.timer ≤ Binary64.overflow

theorem Paintable.draw {feedback : Feedback} (paintable : feedback.Paintable) (height : Int) :
    (feedback.draw height).1.Paintable ∧ ∃ calls, (feedback.draw height).2 = .ok calls := by
  unfold Feedback.draw
  split
  · rename_i shown
    have timer := paintable.timer
    have counted : (Binary64.ofInt? ((feedback.timer - 1).toNat : Int)).isSome = true := by
      rw [Binary64.ofInt?_isSome_iff]
      omega
    obtain ⟨double, counts⟩ := Option.isSome_iff_exists.mp counted
    obtain ⟨faint, faded⟩ := fadedColor_of_mem (feedback.timer - 1).toNat paintable.color
    refine ⟨⟨paintable.color, ?_⟩, feedback.calls height (fade (feedback.timer - 1).toNat) faint, ?_⟩
    · change feedback.timer - 1 ≤ Binary64.overflow
      omega
    · dsimp only
      rw [paint, strength_of_ofInt? counts]
      change (fadedColor (fade _) feedback.color).map _ = _
      rw [faded]
      rfl
  · exact ⟨paintable, [], rfl⟩

end Feedback

structure Comment.Plain (comment : Comment) : Prop where
  color : comment.color ∈ Feedback.colors
  duration : comment.duration = none ∨ comment.duration = some Keypad.resultDuration

theorem Comment.Plain.of_color (message : String) {color : Color} (spoken : Option String)
    (known : color ∈ Feedback.colors) : (Comment.mk message color none spoken).Plain :=
  ⟨known, .inl rfl⟩

theorem Comment.Plain.refusal (message : String) : (Comment.refusal message).Plain :=
  .of_color message none (by decide)

theorem MemoryMode.comment_plain (mode : MemoryMode) (slot : String) (accepted : Bool) :
    (mode.comment slot accepted).Plain := by
  have cyan : Keypad.cyan ∈ Feedback.colors := by decide
  cases mode <;> cases accepted
  case add.false => exact .refusal _
  case fetch.false => exact .refusal _
  all_goals exact .of_color _ _ cyan

theorem Key.comment?_plain {session : Session} {mode : Option MemoryMode} {key : Key}
    {comment : Comment} (told : key.comment? session mode = some comment) : comment.Plain := by
  have plain {accepted : Bool} {message refusal spoken : String} {color : Color}
      (known : color ∈ Feedback.colors) :
      (if accepted then ⟨message, color, none, some spoken⟩ else Comment.refusal refusal).Plain := by
    cases accepted
    · exact .refusal _
    · exact .of_color _ _ known
  cases mode with
  | some mode =>
      cases key with
      | number value =>
          cases told
          exact mode.comment_plain _ _
      | delete =>
          cases told
          exact .of_color _ _ (by decide)
      | _ => cases told
  | none =>
      cases key with
      | number value =>
          cases told
          exact plain (by decide)
      | arithmetic key =>
          cases told
          exact plain (by decide)
      | point =>
          change (if _ then some _ else none) = some comment at told
          split at told
          · cases told
            exact .of_color _ _ (by decide)
          · cases told
      | finish =>
          have cyan : Keypad.cyan ∈ Feedback.colors := by decide
          cases told
          exact ⟨cyan, .inr rfl⟩
      | unknown => cases told
      | _ =>
          cases told
          exact .of_color _ _ (by decide)

namespace Keypad

/-! ### Turns that cannot fail -/

/-- The next picture and `count` more can be painted, as far as the settings and the machine go. -/
structure Paintable (keypad : Keypad) (moments : Moments) (count : Nat) : Prop where
  frame : ∀ place ≤ count, keypad.screen.frameFault? (moments place) = none
  clock : ∀ place ≤ count, ∃ visible, Clock.showsCursor (moments place).now = .ok visible
  duration : keypad.screen.feedbackDuration ≤ Binary64.overflow
  feedback : keypad.screen.feedback.Paintable

theorem resultDuration_le_overflow : resultDuration ≤ Binary64.overflow := by
  have large : 60 ≤ Binary64.overflow := by decide +kernel
  rw [resultDuration]
  omega

variable {keypad : Keypad} {moments : Moments} {count : Nat}
  (paintable : keypad.Paintable moments count)
include paintable

theorem Paintable.announce (message : String) {color : Color} (known : color ∈ Feedback.colors)
    {duration : Option Int} (short : duration = none ∨ duration = some resultDuration) :
    ((keypad.screen.announce message color duration).feedback).Paintable := by
  refine ⟨known, ?_⟩
  rcases short with rfl | rfl
  · exact paintable.duration
  · exact resultDuration_le_overflow

theorem Paintable.pressed (identifier : CodeText) :
    (keypad.pressed identifier).Paintable moments count := by
  unfold Keypad.pressed process
  cases Key.ofIdentifier identifier with
  | error error => exact paintable
  | ok key =>
      change (keypad.press key).keypad.Paintable moments count
      have screen := (keypad.press_commented key).screen
      cases told : key.comment? keypad.session keypad.mode with
      | none =>
          rw [told] at screen
          exact ⟨screen ▸ paintable.frame, paintable.clock, screen ▸ paintable.duration,
            screen ▸ paintable.feedback⟩
      | some comment =>
          have plain := Key.comment?_plain told
          have shown := paintable.announce comment.message plain.color plain.duration
          rw [told] at screen
          exact ⟨screen ▸ paintable.frame, paintable.clock, screen ▸ paintable.duration,
            screen ▸ shown⟩

theorem Paintable.heed (code : Int) : (keypad.heed code).Paintable moments count := by
  unfold Keypad.heed reaction
  split
  · exact paintable
  · split
    · have cyan : Keypad.cyan ∈ Feedback.colors := by decide
      exact ⟨paintable.frame, paintable.clock, paintable.duration,
        paintable.announce _ cyan (.inr rfl)⟩
    · split
      · exact paintable
      · rename_i identifier _
        have pressed := paintable.pressed identifier
        unfold Keypad.pressed at pressed
        split
        · rename_i handled processed
          rw [processed] at pressed
          exact pressed
        · exact paintable

theorem Paintable.drawing : (keypad.drawing (moments 0)).1.Paintable moments count ∧
    ∃ calls, (keypad.drawing (moments 0)).2 = .ok calls := by
  obtain ⟨visible, shows⟩ := paintable.clock 0 count.zero_le
  obtain ⟨calls, display⟩ :
      ∃ calls, keypad.screen.drawDisplay keypad.session (moments 0) = .ok calls := by
    unfold Screen.drawDisplay Screen.drawCursor
    split
    · exact ⟨_, rfl⟩
    · rw [shows]
      exact ⟨_, rfl⟩
  obtain ⟨feedback, painted, faded⟩ := paintable.feedback.draw keypad.screen.height
  unfold Keypad.drawing Screen.draw Screen.drawFeedback
  rw [display]
  dsimp only
  rw [faded]
  exact ⟨⟨paintable.frame, paintable.clock, paintable.duration, feedback⟩, _, rfl⟩

theorem Paintable.picture : ∃ frame, (keypad.picture (moments 0)).2 = .ok frame := by
  obtain ⟨_, calls, drawn⟩ := paintable.drawing
  refine ⟨calls, ?_⟩
  unfold Keypad.picture
  rw [paintable.frame 0 count.zero_le]
  dsimp only
  rw [drawn]
  rfl

omit paintable

theorem Paintable.next (paintable : keypad.Paintable moments (count + 1)) :
    keypad.Paintable moments.next count :=
  ⟨fun place before => paintable.frame (place + 1) (Nat.succ_le_succ before),
    fun place before => paintable.clock (place + 1) (Nat.succ_le_succ before),
    paintable.duration, paintable.feedback⟩

theorem Paintable.turn (paintable : keypad.Paintable moments (count + 1)) (code : Int) :
    (keypad.turn (moments 0) code).Paintable moments.next count :=
  (paintable.drawing.1.heed code).next

theorem Paintable.undisturbed {codes : List Int} (paintable : keypad.Paintable moments codes.length)
    (known : ∀ code ∈ codes, Knows keypad.settings code) : keypad.Undisturbed moments codes := by
  induction codes generalizing keypad moments with
  | nil => exact undisturbed_nil.mpr paintable.picture
  | cons code rest inductionHypothesis =>
      refine undisturbed_cons.mpr
        ⟨⟨paintable.picture, known code List.mem_cons_self⟩, ?_⟩
      apply inductionHypothesis (paintable.turn code)
      intro other member
      rw [turn_settings]
      exact known other (List.mem_cons_of_mem code member)

/-! ### Whole runs -/

/-- With the standard key map, every code is known. -/
theorem knows_of_standard {settings : Settings} (standard : settings.keyMap = .standard) (code : Int) :
    Knows settings code := by
  have all : KeyMap.standard.all (fun entry => (Key.ofIdentifier entry.2).isOk) = true := by
    decide +kernel
  intro identifier pressed
  unfold keyOf? at pressed
  split at pressed
  · cases pressed
  · obtain ⟨found, -⟩ := Option.filter_eq_some_iff.mp pressed
    obtain ⟨character, -, listed⟩ := Option.bind_eq_some_iff.mp found
    rw [standard] at listed
    have known := List.all_eq_true.mp all _ (Entries.mem_of_get? listed)
    cases named : Key.ofIdentifier identifier with
    | error error =>
        rw [named] at known
        cases known
    | ok key => exact ⟨key, rfl⟩

def untilExit (codes : List Int) : List Int :=
  codes.takeWhile fun code => !isExit code

theorem going_untilExit {codes : List Int} : ∀ code ∈ untilExit codes, isExit code = false := by
  intro code member
  simpa using List.mem_takeWhile_imp member

theorem loop_untilExit (keypad : Keypad) (moments : Moments) (codes : List Int) :
    keypad.loop moments (codes.map .code) = keypad.loop moments ((untilExit codes).map .code) := by
  have parts : untilExit codes ++ codes.dropWhile (fun code => !isExit code) = codes :=
    List.takeWhile_append_dropWhile
  cases rest : codes.dropWhile (fun code => !isExit code) with
  | nil =>
      rw [rest, List.append_nil] at parts
      rw [parts]
  | cons exit after =>
      have leaving : isExit exit = true := by
        have first := List.head?_dropWhile_not (fun code => !isExit code) codes
        rw [rest] at first
        simpa using first
      rw [rest] at parts
      calc keypad.loop moments (codes.map .code)
          = keypad.loop moments ((untilExit codes).map .code ++ .code exit :: after.map .code) := by
            rw [← List.map_cons, ← List.map_append, parts]
        _ = keypad.loop moments ((untilExit codes).map .code) :=
            keypad.loop_exit moments _ leaving _

/-- A calculator that can be painted goes on until it is left. -/
theorem Paintable.run {codes : List Int}
    (paintable : keypad.Paintable moments (untilExit codes).length)
    (known : ∀ code ∈ untilExit codes, Knows keypad.settings code) :
    let outcome := keypad.run moments (codes.map .code)
    outcome.ending = .closed ∧ outcome.frames.length = (untilExit codes).length + 1 ∧
      outcome.lines =
        welcome keypad.speech.enabled ++ keypad.console (untilExit codes) ++ farewell := by
  have closed := (keypad.loop_closed_iff moments going_untilExit).mpr (paintable.undisturbed known)
  have tells : keypad.Tells moments (untilExit codes)
      (keypad.loop moments ((untilExit codes).map .code)) :=
    keypad.loop_tells keypad.screen.feedback.timer moments going_untilExit closed
  unfold Keypad.run
  rw [loop_untilExit]
  refine ⟨closed, tells.count, ?_⟩
  dsimp only
  rw [closed, if_pos rfl, tells.lines]

/-- Without a frame there is no picture, whatever the keyboard does. -/
theorem run_without_frame {fault : String}
    (frameless : keypad.screen.frameFault? (moments 0) = some fault) (events : List KeyEvent) :
    keypad.run moments events = ⟨keypad, .failed fault, [], welcome keypad.speech.enabled⟩ := by
  have unpainted : keypad.picture (moments 0) = (keypad, .error fault) := by
    rw [picture, frameless]
  have failed : keypad.loop moments events = ⟨keypad, .failed fault, [], []⟩ := by
    cases events with
    | nil => rw [loop, unpainted]
    | cons event rest => rw [loop, unpainted]
  simp [run, failed]

theorem start_paintable {settings : Settings} {source : SpeechSource}
    (frame : ∀ place ≤ count,
      (moments place).frameFault? settings.windowWidth settings.windowHeight = none)
    (clock : ∀ place ≤ count, ∃ visible, Clock.showsCursor (moments place).now = .ok visible)
    (duration : settings.feedbackDuration ≤ Binary64.overflow) :
    (start settings source).1.Paintable moments count := by
  have green : Feedback.green ∈ Feedback.colors := by decide
  exact ⟨frame, clock, duration, green, Int.natCast_nonneg _⟩

end Keypad

namespace Program

theorem parse_config {path : String} (operand : path.toList.head? ≠ some '-') :
    CommandLine.parse ["--config", path] = .run { configPath := some path } := by
  have option : CommandLine.classify "--config" = .ok (.option .config false none) := by
    decide +kernel
  have plain : CommandLine.classify path = .ok .operand := by
    unfold CommandLine.classify
    dsimp only
    split
    · rename_i dashed
      rw [dashed] at operand
      exact absurd rfl operand
    · rfl
  have divider : path ≠ "--" := by
    rintro rfl
    exact operand rfl
  simp only [CommandLine.parse, CommandLine.classifyAll, option, plain, if_neg divider]
  rfl

/-- With a path that is no option, the settings are those of the file. -/
theorem buildSettings_config {storage : Storage} {path : String}
    {loaded : Settings × List Settings.Warning} (named : path ≠ "")
    (operand : path.toList.head? ≠ some '-') (held : Settings.load storage path = .ok loaded) :
    buildSettings storage ["--config", path] = .ok loaded := by
  obtain ⟨settings, warnings⟩ := loaded
  rw [buildSettings, parse_config operand]
  dsimp only [loadRequested]
  rw [if_neg named, held]
  simp [applySwitches]

theorem run_of_loaded {storage : Storage} {words : List String} {settings : Settings}
    {warnings : List Settings.Warning} (loaded : buildSettings storage words = .ok (settings, warnings))
    (source : SpeechSource) (moments : Moments) (events : List KeyEvent) :
    run storage words source moments events = runWith settings warnings source moments events := by
  rw [run, loaded]

def opening (settings : Settings) (warnings : List Settings.Warning) (source : SpeechSource) :
    List String :=
  warnings.map Settings.Warning.text ++ (Keypad.start settings source).2 ++
    Keypad.welcome (Keypad.start settings source).1.speech.enabled

theorem runWith_without_frame {settings : Settings} {moments : Moments} {fault : String}
    (frameless : (moments 0).frameFault? settings.windowWidth settings.windowHeight = some fault)
    (warnings : List Settings.Warning) (source : SpeechSource) (events : List KeyEvent) :
    runWith settings warnings source moments events =
      { exit := none
        lines := opening settings warnings source ++ [errorLine fault]
        frames := []
        opened := true
        closed := false } := by
  have ended :=
    @Keypad.run_without_frame (Keypad.start settings source).1 moments fault frameless events
  unfold runWith
  dsimp only
  rw [ended]
  rfl

/-- The settings file that the command line names, if any, has no member with a reserved name. -/
def NamesPlain (storage : Storage) (words : List String) : Prop :=
  ∀ request path, CommandLine.parse words = .run request → request.configPath = some path →
    Settings.NamesPlain storage path

theorem namesPlain_config {storage : Storage} {path : String}
    (operand : path.toList.head? ≠ some '-') (plain : Settings.NamesPlain storage path) :
    NamesPlain storage ["--config", path] := by
  intro request named parsed asked
  rw [parse_config operand] at parsed
  cases parsed
  cases asked
  exact plain

/-- Settings that load are those of a run, whatever their values. Where the machine has no frame with the
sides of the window, the run ends with an error before the first picture. Where it has one for each picture
up to the exit, the run goes on until it is left and says farewell, if doubles can count the pictures of a
message and the keys pressed are keys. -/
theorem loaded_run_ends_by_frame (storage : Storage) (words : List String) (source : SpeechSource)
    (moments : Moments) (codes : List Int) (settings : Settings) (warnings : List Settings.Warning)
    (loaded : buildSettings storage words = .ok (settings, warnings))
    (_plain : NamesPlain storage words)
    (clock : ∀ place ≤ (Keypad.untilExit codes).length,
      ∃ visible, Clock.showsCursor (moments place).now = .ok visible) :
    let report := run storage words source moments (codes.map .code)
    ((∀ place ≤ (Keypad.untilExit codes).length,
        (moments place).frameFault? settings.windowWidth settings.windowHeight = none) →
      settings.feedbackDuration ≤ Binary64.overflow →
      (∀ code ∈ Keypad.untilExit codes, Keypad.Knows settings code) →
      report.closed = true ∧ report.exit = none ∧
      report.frames.length = (Keypad.untilExit codes).length + 1 ∧
      report.lines = opening settings warnings source ++
        (Keypad.start settings source).1.console (Keypad.untilExit codes) ++ Keypad.farewell) ∧
    ∀ fault, (moments 0).frameFault? settings.windowWidth settings.windowHeight = some fault →
      report.closed = false ∧ report.exit = none ∧ report.frames = [] ∧
      report.lines = opening settings warnings source ++ [errorLine fault] := by
  intro report
  have same : report = runWith settings warnings source moments (codes.map .code) :=
    run_of_loaded loaded source moments _
  rw [same]
  constructor
  · intro frame duration known
    have paintable := @Keypad.start_paintable moments _ settings source frame clock duration
    obtain ⟨ended, count, lines⟩ := paintable.run known
    refine ⟨decide_eq_true ended, rfl, count, ?_⟩
    change warnings.map Settings.Warning.text ++ (Keypad.start settings source).2 ++
      ((Keypad.start settings source).1.run moments (codes.map .code)).lines ++
        endingLines ((Keypad.start settings source).1.run moments (codes.map .code)).ending = _
    rw [ended, lines, endingLines, List.append_nil, opening]
    simp only [List.append_assoc]
  · intro fault frameless
    rw [runWith_without_frame frameless]
    exact ⟨rfl, rfl, rfl, rfl⟩

/-- A file loads without warnings when its members do, with settings that have what those of the members
have. -/
theorem load_holds {storage : Storage} {path : String} {text : List Char} (holds : Settings → Bool)
    (clean : '\x00' ∉ (Path.ofString path).normal.text.toList)
    (file : storage.fileAt (Path.ofString path).normal = .ok (Utf8.encode text))
    (accepted : (Json.read (Text.unifyLineBreaks text)).toOption.any
      (Settings.isObjectWith fun members => Settings.arePlain members &&
        (holds (Settings.overlay {} members).1 && (Settings.overlay {} members).2.isEmpty)) = true) :
    Settings.NamesPlain storage path ∧
      ∃ settings, Settings.load storage path = .ok (settings, []) ∧ holds settings = true := by
  obtain ⟨members, object, plain, tested⟩ :=
    Settings.exists_holdsObject (Storage.read_of_fileAt clean file) accepted
  obtain ⟨holding, silent⟩ := Bool.and_eq_true_iff.mp tested
  refine ⟨plain, (Settings.overlay {} members).1, ?_, holding⟩
  rw [Settings.load_of_object object, ← List.isEmpty_iff.mp silent]

theorem narrow_window_runs_to_the_end :
    let text := "\x7b\"window_width\": 64, \"feedback_duration\": 1\x7d".toList
    let storage := Storage.empty.place "settings.json" (.file (Utf8.encode text))
    let report := run storage ["--config", "settings.json"] (fun _ => .error "no engine") .sample
      ([53, -1, 118, 113, 53].map .code)
    (∃ settings, Settings.load storage "settings.json" = .ok (settings, []) ∧
        settings.windowWidth = 64 ∧ settings.feedbackDuration = 1) ∧
      report.closed = true ∧ report.frames.length = 4 := by
  intro text storage report
  have file : storage.fileAt (Path.ofString "settings.json").normal = .ok (Utf8.encode text) := by
    decide +kernel
  obtain ⟨plain, settings, held, values⟩ := load_holds
    (fun settings => decide ((settings.windowWidth = 64 ∧ settings.windowHeight = 540) ∧
      settings.feedbackDuration = 1 ∧ settings.keyMap = .standard))
    (by decide +kernel) file (by decide +kernel)
  obtain ⟨⟨width, height⟩, duration, keys⟩ := of_decide_eq_true values
  have loaded := buildSettings_config (by decide) (by decide +kernel) held
  have frame (place : Nat) :
      (Moments.sample place).frameFault? settings.windowWidth settings.windowHeight = none := by
    rw [width, height]
    rfl
  have ended := (loaded_run_ends_by_frame storage ["--config", "settings.json"]
    (fun _ => .error "no engine") .sample [53, -1, 118, 113, 53] settings [] loaded
    (namesPlain_config (by decide +kernel) plain) fun _ _ => ⟨_, rfl⟩).1 (fun place _ => frame place)
    (by rw [duration]; decide +kernel) (fun code _ => Keypad.knows_of_standard keys code)
  exact ⟨⟨settings, held, width, duration⟩, ended.1, ended.2.2.1⟩

theorem negative_width_ends_with_error :
    let text := "\x7b\"window_width\": -1\x7d".toList
    let storage := Storage.empty.place "settings.json" (.file (Utf8.encode text))
    let report := run storage ["--config", "settings.json"] (fun _ => .error "no engine") .sample []
    (∃ settings, Settings.load storage "settings.json" = .ok (settings, [])) ∧
      report.closed = false ∧
      report.lines.getLast? = some "\nError: negative dimensions are not allowed" := by
  intro text storage report
  have file : storage.fileAt (Path.ofString "settings.json").normal = .ok (Utf8.encode text) := by
    decide +kernel
  obtain ⟨_, settings, held, values⟩ := load_holds
    (fun settings => decide (settings.windowWidth = -1 ∧ settings.windowHeight = 540))
    (by decide +kernel) file (by decide +kernel)
  obtain ⟨width, height⟩ := of_decide_eq_true values
  have loaded := buildSettings_config (by decide) (by decide +kernel) held
  have frameless : (Moments.sample 0).frameFault? settings.windowWidth settings.windowHeight =
      some "negative dimensions are not allowed" := by
    rw [width, height]
    rfl
  have ended : report = _ :=
    (run_of_loaded loaded _ _ _).trans (runWith_without_frame frameless _ _ _)
  rw [ended]
  refine ⟨⟨settings, held⟩, rfl, ?_⟩
  rw [List.getLast?_concat]
  decide +kernel

end Program
end DeskCalculator
