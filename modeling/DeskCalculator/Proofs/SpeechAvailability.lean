import DeskCalculator.Proofs.KeyComments

/-! When there is speech. Enabled speech has an engine, the first one that could be started, and keeps it.
Without an engine only the voice switch asks for one; as long as none starts, nothing is enabled, queued
or said. -/

namespace DeskCalculator

namespace Speech

def Ready (speech : Speech) : Prop :=
  speech.enabled = true → speech.engine.isSome = true

/-- Nothing changes but what is queued and said, and without an engine not even that. -/
def Plays (speech after : Speech) : Prop :=
  ∃ playback, after = { speech with playback := playback } ∧
    (speech.engine = none → playback = speech.playback)

/-! ### Messages -/

theorem settle_plays (speech : Speech) (held : Bool) : speech.Plays (speech.settle held).1 := by
  unfold settle
  split
  · exact ⟨speech.playback, rfl, fun _ => rfl⟩
  · rename_i engine present
    exact ⟨_, rfl, fun absent => nomatch present.symm.trans absent⟩

theorem announce_fst (speech : Speech) (message : String) :
    (speech.announce message).1 = ((speech.speak message).1.settle false).1 :=
  rfl

theorem announce_plays {speech : Speech} (ready : speech.Ready) (message : String) :
    speech.Plays (speech.announce message).1 := by
  rw [announce_fst]
  by_cases enabled : speech.enabled = true
  · have present := ready enabled
    have queued : (speech.speak message).1 =
        { speech with playback := speech.playback.accept message } := by
      simp [speak, enqueue, enabled, present]
    rw [queued]
    obtain ⟨playback, settled, _⟩ :=
      settle_plays { speech with playback := speech.playback.accept message } false
    refine ⟨playback, settled, fun absent => ?_⟩
    rw [absent] at present
    cases present
  · have ignored : (speech.speak message).1 = speech := by
      simp [speak, enabled]
    rw [ignored]
    exact speech.settle_plays false

section
variable {speech : Speech} (enabled : speech.enabled = true) (absent : speech.engine = none)
include enabled absent

theorem announce_opened {engine : SpeechEngine} (started : speech.source speech.attempts = .ok engine)
    (message : String) :
    ∃ playback, (speech.announce message).1 = { speech with
      attempts := speech.attempts + 1
      engine := some engine
      playback := playback } := by
  have queued : (speech.speak message).1 = { speech with
      attempts := speech.attempts + 1
      engine := some engine
      playback := speech.playback.accept message } := by
    simp [speak, openEngine, enqueue, enabled, absent, started]
  rw [announce_fst, queued]
  obtain ⟨playback, settled, _⟩ := settle_plays { speech with
    attempts := speech.attempts + 1
    engine := some engine
    playback := speech.playback.accept message } false
  exact ⟨playback, settled⟩

theorem announce_failed {error : String} (failure : speech.source speech.attempts = .error error)
    (message : String) :
    speech.announce message =
      ({ speech with enabled := false, attempts := speech.attempts + 1 }, [openFailureText error]) := by
  simp [announce, speak, openEngine, enabled, absent, failure, enqueue, settle, SpeechLog.line]

end

theorem saying_plays {speech : Speech} (ready : speech.Ready) (words? : Option String) :
    speech.Plays (speech.saying words?).1 := by
  cases words? with
  | none => exact ⟨speech.playback, rfl, fun _ => rfl⟩
  | some words => exact announce_plays ready words

/-! ### The voice switch -/

def enable (speech : Speech) : Speech :=
  { speech with enabled := true }

/-- What the switch does: it turns speech off, or on with the engine that is there, or else asks for one
more engine, and stays off if that one fails. -/
inductive Switched (speech : Speech) : Speech → Prop
  | off (wasEnabled : speech.enabled = true) : Switched speech { speech with enabled := false }
  | on (playback : Playback) (wasDisabled : speech.enabled = false)
      (present : speech.engine.isSome = true) :
      Switched speech { speech with enabled := true, playback := playback }
  | opened (engine : SpeechEngine) (playback : Playback) (wasDisabled : speech.enabled = false)
      (absent : speech.engine = none) (started : speech.source speech.attempts = .ok engine) :
      Switched speech { speech with
        enabled := true
        attempts := speech.attempts + 1
        engine := some engine
        playback := playback }
  | failed (error : String) (wasDisabled : speech.enabled = false) (absent : speech.engine = none)
      (failure : speech.source speech.attempts = .error error) :
      Switched speech { speech with attempts := speech.attempts + 1 }

end Speech

namespace Keypad

theorem toggleVoice_off {keypad : Keypad} (enabled : keypad.speech.enabled = true) :
    keypad.toggleVoice.keypad.speech = { keypad.speech with enabled := false } := by
  simp [toggleVoice, enabled]

theorem toggleVoice_on {keypad : Keypad} (disabled : keypad.speech.enabled = false) :
    keypad.toggleVoice.keypad.speech = (keypad.speech.enable.announce "voz activada").1 ∧
      keypad.toggleVoice.lines = (keypad.speech.enable.announce "voz activada").2 ++
        ["🔊 Voz: " ++ voiceStatus keypad.toggleVoice.keypad.speech.enabled] := by
  simp [toggleVoice, disabled, Speech.enable]

theorem toggleVoice_failed {keypad : Keypad} {error : String}
    (disabled : keypad.speech.enabled = false) (absent : keypad.speech.engine = none)
    (failure : keypad.speech.source keypad.speech.attempts = .error error) :
    keypad.toggleVoice.keypad.speech =
        { keypad.speech with attempts := keypad.speech.attempts + 1 } ∧
      keypad.toggleVoice.lines =
        [Speech.openFailureText error, "🔊 Voz: " ++ voiceStatus false] := by
  obtain ⟨speech, lines⟩ := toggleVoice_on disabled
  have announced : keypad.speech.enable.announce "voz activada" =
      ({ keypad.speech with attempts := keypad.speech.attempts + 1 },
        [Speech.openFailureText error]) := by
    have failed := @Speech.announce_failed keypad.speech.enable rfl absent error failure "voz activada"
    generalize keypad.speech = speech at disabled failed
    cases speech
    cases disabled
    exact failed
  rw [announced] at speech lines
  rw [speech, disabled] at lines
  exact ⟨speech, lines⟩

theorem toggleVoice_switched (keypad : Keypad) :
    keypad.speech.Switched keypad.toggleVoice.keypad.speech := by
  by_cases enabled : keypad.speech.enabled = true
  · rw [toggleVoice_off enabled]
    exact .off enabled
  · have disabled := Bool.eq_false_iff.mpr enabled
    cases engine : keypad.speech.engine with
    | some present =>
        have here : keypad.speech.engine.isSome = true := engine ▸ rfl
        obtain ⟨playback, announced, _⟩ :=
          @Speech.announce_plays keypad.speech.enable (fun _ => here) "voz activada"
        rw [(toggleVoice_on disabled).1, announced]
        exact .on playback disabled here
    | none =>
        cases attempt : keypad.speech.source keypad.speech.attempts with
        | error error =>
            rw [(toggleVoice_failed disabled engine attempt).1]
            exact .failed error disabled engine attempt
        | ok started =>
            obtain ⟨playback, announced⟩ :=
              @Speech.announce_opened keypad.speech.enable rfl engine started attempt "voz activada"
            rw [(toggleVoice_on disabled).1, announced]
            exact .opened started playback disabled engine attempt

end Keypad

/-! ### What holds in every state -/

namespace Speech

/-- An engine of speech is the first one that could be started. Without one nothing was ever said. -/
structure Available (source : SpeechSource) (speech : Speech) : Prop where
  asks : speech.source = source
  ready : speech.Ready
  absent : speech.engine = none → speech.playback = .silent ∧
    ∀ attempt < speech.attempts, ∃ error, source attempt = .error error
  present : ∀ engine, speech.engine = some engine → ∃ last, speech.attempts = last + 1 ∧
    source last = .ok engine ∧ ∀ attempt < last, ∃ error, source attempt = .error error

section
variable {source : SpeechSource} {speech after : Speech} (available : speech.Available source)
include available

theorem Available.disabled (absent : speech.engine = none) : speech.enabled = false := by
  refine Bool.eq_false_iff.mpr fun enabled => ?_
  have present := available.ready enabled
  rw [absent] at present
  cases present

theorem Available.plays (plays : speech.Plays after) : after.Available source := by
  obtain ⟨playback, rfl, kept⟩ := plays
  refine ⟨available.asks, available.ready, fun absent => ?_, available.present⟩
  obtain ⟨silent, failures⟩ := available.absent absent
  exact ⟨(kept absent).trans silent, failures⟩

theorem Available.switched (switched : speech.Switched after) : after.Available source := by
  cases switched with
  | off => exact ⟨available.asks, nofun, available.absent, available.present⟩
  | on playback _ present =>
      refine ⟨available.asks, fun _ => present, fun absent => ?_, available.present⟩
      change speech.engine = none at absent
      rw [absent] at present
      cases present
  | opened engine playback _ absent started =>
      rw [available.asks] at started
      refine ⟨available.asks, fun _ => rfl, nofun, fun other held => ?_⟩
      cases held
      exact ⟨speech.attempts, rfl, started, (available.absent absent).2⟩
  | failed error _ absent failure =>
      rw [available.asks] at failure
      obtain ⟨silent, failures⟩ := available.absent absent
      refine ⟨available.asks, available.ready, fun _ => ⟨silent, fun attempt below => ?_⟩,
        fun engine held => nomatch absent.symm.trans held⟩
      rcases Nat.lt_succ_iff_lt_or_eq.mp below with earlier | rfl
      · exact failures attempt earlier
      · exact ⟨error, failure⟩

end

def Keeps (speech after : Speech) : Prop :=
  ∀ engine, speech.engine = some engine →
    after.engine = some engine ∧ after.attempts = speech.attempts

theorem Plays.keeps {speech after : Speech} (plays : speech.Plays after) : speech.Keeps after := by
  obtain ⟨playback, rfl, _⟩ := plays
  exact fun engine present => ⟨present, rfl⟩

theorem Switched.keeps {speech after : Speech} (switched : speech.Switched after) :
    speech.Keeps after := by
  intro engine present
  cases switched with
  | off => exact ⟨present, rfl⟩
  | on => exact ⟨present, rfl⟩
  | opened _ _ _ absent => cases absent.symm.trans present
  | failed _ _ absent => cases absent.symm.trans present

end Speech

namespace Keypad

/-! ### The start -/

theorem start_failed {settings : Settings} {source : SpeechSource} {error : String}
    (enabled : settings.voiceEnabled = true) (failure : source 0 = .error error) :
    (start settings source).1.speech.engine = none ∧
      (start settings source).1.speech.attempts = 1 ∧
      (start settings source).2 = [Speech.openFailureText error] := by
  simp [start, Speech.start, Speech.openEngine, enabled, failure, SpeechLog.line]

theorem start_available (settings : Settings) (source : SpeechSource) :
    (start settings source).1.speech.Available source := by
  cases enabled : settings.voiceEnabled with
  | false =>
      simp only [start, Speech.start, enabled]
      exact ⟨rfl, nofun, fun _ => ⟨rfl, nofun⟩, nofun⟩
  | true =>
      cases attempt : source 0 with
      | error error =>
          simp only [start, Speech.start, Speech.openEngine, enabled, attempt]
          refine ⟨rfl, nofun, fun _ => ⟨rfl, fun index first => ?_⟩, nofun⟩
          exact ⟨error, Nat.lt_one_iff.mp first ▸ attempt⟩
      | ok engine =>
          simp only [start, Speech.start, Speech.openEngine, enabled, attempt]
          refine ⟨rfl, fun _ => rfl, nofun, fun other held => ?_⟩
          cases held
          exact ⟨0, rfl, attempt, nofun⟩

/-! ### Runs -/

/-- An event, or the workers go on in any way; where there is nothing to say there is nothing to do. -/
inductive VoicedStep where
  | event (event : Event)
  | workers (change : Playback → Playback) (idle : change .silent = .silent)

def goOn (keypad : Keypad) : VoicedStep → Keypad
  | .event event => keypad.meet event
  | .workers change _ =>
    { keypad with speech := { keypad.speech with playback := change keypad.speech.playback } }

def goOnAll (keypad : Keypad) (steps : List VoicedStep) : Keypad :=
  steps.foldl goOn keypad

theorem pressed_plays {keypad : Keypad} (ready : keypad.speech.Ready) (identifier : CodeText) :
    keypad.speech.Plays (keypad.pressed identifier).speech := by
  unfold pressed process
  cases Key.ofIdentifier identifier with
  | error error => exact ⟨_, rfl, fun _ => rfl⟩
  | ok key =>
      change keypad.speech.Plays (keypad.press key).keypad.speech
      rw [(keypad.press_commented key).speech]
      exact Speech.saying_plays ready _

theorem goOn_cases {keypad : Keypad} {source : SpeechSource}
    (available : keypad.speech.Available source) (step : VoicedStep) :
    keypad.speech.Plays (keypad.goOn step).speech ∨
      keypad.speech.Switched (keypad.goOn step).speech := by
  cases step with
  | workers change idle =>
      refine .inl ⟨_, rfl, fun absent => ?_⟩
      rw [(available.absent absent).1, idle]
  | event event =>
      cases event with
      | key identifier => exact .inl (pressed_plays available.ready identifier)
      | voice => exact .inr keypad.toggleVoice_switched
      | picture moment => exact .inl ⟨_, rfl, fun _ => rfl⟩

theorem goOnAll_available {keypad : Keypad} {source : SpeechSource}
    (available : keypad.speech.Available source) (steps : List VoicedStep) :
    (keypad.goOnAll steps).speech.Available source ∧
      keypad.speech.Keeps (keypad.goOnAll steps).speech := by
  induction steps generalizing keypad with
  | nil => exact ⟨available, fun _ present => ⟨present, rfl⟩⟩
  | cons step rest inductionHypothesis =>
      have next : (keypad.goOn step).speech.Available source ∧
          keypad.speech.Keeps (keypad.goOn step).speech := by
        rcases goOn_cases available step with plays | switched
        · exact ⟨available.plays plays, plays.keeps⟩
        · exact ⟨available.switched switched, switched.keeps⟩
      obtain ⟨later, kept⟩ := inductionHypothesis next.1
      refine ⟨later, fun engine present => ?_⟩
      obtain ⟨first, counted⟩ := next.2 engine present
      obtain ⟨last, total⟩ := kept engine first
      exact ⟨last, total.trans counted⟩

theorem toggleVoice_shows (keypad : Keypad) :
    let toggled := keypad.toggleVoice
    toggled.accepted = toggled.keypad.speech.enabled ∧
      toggled.keypad.screen.feedback =
        ⟨"VOZ " ++ voiceStatus toggled.accepted, cyan, resultDuration⟩ ∧
      toggled.lines.getLast? = some ("🔊 Voz: " ++ voiceStatus toggled.accepted) := by
  exact ⟨rfl, rfl, List.getLast?_concat⟩

theorem toggleVoice_accepted (keypad : Keypad) :
    keypad.toggleVoice.accepted = (!keypad.speech.enabled && (keypad.speech.engine.isSome ||
      (keypad.speech.source keypad.speech.attempts).isOk)) := by
  have switched := keypad.toggleVoice_switched
  change keypad.toggleVoice.keypad.speech.enabled = _
  generalize keypad.toggleVoice.keypad.speech = after at switched
  cases switched with
  | off wasEnabled => rw [wasEnabled]; rfl
  | on _ wasDisabled present => rw [wasDisabled, present]; rfl
  | opened _ _ wasDisabled absent started => rw [wasDisabled, absent, started]; rfl
  | failed _ wasDisabled absent failure => rw [wasDisabled, absent, failure]; rfl

/-- After any run enabled speech has an engine, and an engine stays. The switch tells and shows what comes
of it: on if it was off and there is an engine or one more attempt succeeds. Without an engine all attempts
have failed, nothing is enabled or was queued, and the switch makes one more; a key makes none. -/
theorem enabled_speech_has_engine (settings : Settings) (source : SpeechSource)
    (steps : List VoicedStep) :
    let keypad := (start settings source).1.goOnAll steps
    let speech := keypad.speech
    let toggled := keypad.toggleVoice
    (speech.enabled = true → speech.engine.isSome = true) ∧
    (∀ engine, speech.engine = some engine → ∀ later,
      (keypad.goOnAll later).speech.engine = some engine ∧
      (keypad.goOnAll later).speech.attempts = speech.attempts) ∧
    (toggled.accepted = toggled.keypad.speech.enabled ∧
      toggled.accepted =
        (!speech.enabled && (speech.engine.isSome || (source speech.attempts).isOk)) ∧
      toggled.keypad.screen.feedback =
        ⟨"VOZ " ++ voiceStatus toggled.accepted, cyan, resultDuration⟩ ∧
      toggled.lines.getLast? = some ("🔊 Voz: " ++ voiceStatus toggled.accepted)) ∧
    (speech.engine = none →
      speech.enabled = false ∧ speech.playback = .silent ∧
      (∀ attempt < speech.attempts, ∃ error, source attempt = .error error) ∧
      toggled.keypad.speech.attempts = speech.attempts + 1 ∧
      ∀ error, source speech.attempts = .error error →
        toggled.keypad.speech = { speech with attempts := speech.attempts + 1 } ∧
        toggled.lines = [Speech.openFailureText error, "🔊 Voz: DESACTIVADA"]) ∧
    (∀ identifier, let pressed := (keypad.pressed identifier).speech
      pressed.enabled = speech.enabled ∧ pressed.engine = speech.engine ∧
        pressed.attempts = speech.attempts) ∧
    ∀ error, settings.voiceEnabled = true → source 0 = .error error →
      (start settings source).1.speech.engine = none ∧
      (start settings source).1.speech.attempts = 1 ∧
      (start settings source).2 = [Speech.openFailureText error] := by
  intro keypad speech toggled
  have available : speech.Available source :=
    (goOnAll_available (start_available settings source) steps).1
  have accepted := keypad.toggleVoice_accepted
  obtain ⟨final, feedback, line⟩ := keypad.toggleVoice_shows
  rw [available.asks] at accepted
  refine ⟨available.ready, fun engine present later => ?_, ⟨final, accepted, feedback, line⟩,
    fun absent => ?_, fun identifier => ?_, fun error enabled failure => start_failed enabled failure⟩
  · exact (goOnAll_available available later).2 engine present
  · have disabled := available.disabled absent
    obtain ⟨silent, failures⟩ := available.absent absent
    refine ⟨disabled, silent, failures, ?_, fun error failure => ?_⟩
    · have switched := keypad.toggleVoice_switched
      change keypad.toggleVoice.keypad.speech.attempts = keypad.speech.attempts + 1
      generalize keypad.toggleVoice.keypad.speech = after at switched
      cases switched with
      | off wasEnabled => cases disabled.symm.trans wasEnabled
      | on _ _ present =>
          change keypad.speech.engine = none at absent
          rw [absent] at present
          cases present
      | opened => rfl
      | failed => rfl
    · exact toggleVoice_failed disabled absent (available.asks.symm ▸ failure)
  · obtain ⟨playback, pressed, _⟩ := pressed_plays available.ready identifier
    rw [pressed]
    exact ⟨rfl, rfl, rfl⟩

end Keypad
end DeskCalculator
