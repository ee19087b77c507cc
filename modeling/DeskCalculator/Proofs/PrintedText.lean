import DeskCalculator.Proofs.FiniteValues
import DeskCalculator.Proofs.KeyComments

/-! What the window writes. Its fonts have the characters from the space to the tilde. The expression and
the message may hold the signs of the operators as well, and are written with other characters for these;
the number being typed, the result and the memory labels are written as they are. -/

namespace DeskCalculator

/-! ### Characters and texts -/

def isPrintable (character : Char) : Bool :=
  ' ' ≤ character && character ≤ '~'

theorem isPrintable_iff {character : Char} :
    isPrintable character = true ↔ 32 ≤ character.toNat ∧ character.toNat ≤ 126 := by
  rw [isPrintable, Bool.and_eq_true, decide_eq_true_eq, decide_eq_true_eq, Char.le_def, Char.le_def,
    UInt32.le_iff_toNat_le, UInt32.le_iff_toNat_le]
  exact Iff.rfl

def isShown (character : Char) : Bool :=
  isPrintable character || ['−', '×', '÷', '√'].contains character

def MadeOf (kind : Char → Bool) (text : String) : Prop :=
  ∀ character ∈ text.toList, kind character = true

theorem MadeOf.of_all {kind : Char → Bool} {text : String} (all : text.toList.all kind = true) :
    MadeOf kind text :=
  List.all_eq_true.mp all

theorem MadeOf.of_mem {kind : Char → Bool} {texts : List String}
    (all : (texts.all fun text => text.toList.all kind) = true) {text : String}
    (member : text ∈ texts) : MadeOf kind text :=
  .of_all (List.all_eq_true.mp all text member)

theorem MadeOf.append {kind : Char → Bool} {first second : String} (begins : MadeOf kind first)
    (ends : MadeOf kind second) : MadeOf kind (first ++ second) := by
  intro character member
  rw [String.toList_append, List.mem_append] at member
  exact member.elim (begins character) (ends character)

theorem MadeOf.shown {text : String} (printable : MadeOf isPrintable text) :
    MadeOf isShown text := by
  intro character member
  rw [isShown, printable character member, Bool.true_or]

theorem isPrintable_of_hasCharacter {character : Char} (numeral : Numeral.hasCharacter character) :
    isPrintable character = true := by
  rcases numeral with digit | mark
  · have bounds : '0'.toNat ≤ character.toNat ∧ character.toNat ≤ '9'.toNat := by
      simpa [Char.isDigit, UInt32.le_iff_toNat_le] using digit
    have low : '0'.toNat = 48 := rfl
    have high : '9'.toNat = 57 := rfl
    rw [isPrintable_iff]
    omega
  · simp only [List.mem_cons, List.not_mem_nil, or_false] at mark
    rcases mark with rfl | rfl | rfl | rfl <;> rfl

theorem MadeOf.toString (number : Int) : MadeOf isPrintable (toString number) :=
  fun _ member => isPrintable_of_hasCharacter (Numeral.hasCharacter_toString member)

theorem MadeOf.displayNumber {value : Option Float}
    (finite : ∀ number, value = some number → number.isFinite = true) :
    MadeOf isPrintable (displayNumber value) := by
  cases value with
  | none => exact (.of_all rfl : MadeOf isPrintable placeholder)
  | some number =>
      exact fun _ member =>
        isPrintable_of_hasCharacter (Numeral.hasCharacter_displayNumber (finite number rfl) member)

/-- The signs that the fonts do not have are replaced. -/
theorem MadeOf.plainText {text : String} (shown : MadeOf isShown text) :
    MadeOf isPrintable (plainText text) := by
  intro character member
  rw [DeskCalculator.plainText, String.toList_ofList] at member
  obtain ⟨original, inside, replaced⟩ := List.mem_flatMap.mp member
  have known := shown original inside
  unfold plainCharacter at replaced
  split at replaced
  · exact List.mem_singleton.mp replaced ▸ rfl
  · split at replaced
    · exact List.mem_singleton.mp replaced ▸ rfl
    · split at replaced
      · exact List.mem_singleton.mp replaced ▸ rfl
      · split at replaced
        · simp only [List.mem_cons, List.not_mem_nil, or_false] at replaced
          rcases replaced with rfl | rfl | rfl | rfl <;> rfl
        · rename_i notMinus notTimes notOver notRoot
          have same := List.mem_singleton.mp replaced
          simpa [isShown, notMinus, notTimes, notOver, notRoot, same] using known

/-! ### Expressions -/

theorem Operator.symbol_shown (op : Operator) (known : op ∈ Registry.standard.operators) :
    MadeOf isShown op.symbol := by
  have listed : op.symbol ∈ ["+", "−", "×", "÷", "√"] := List.mem_map_of_mem known
  exact .of_mem rfl listed

theorem Tree.Admitted.render_shown {tree : Tree} (admitted : tree.Admitted .standard) :
    MadeOf isShown tree.render := by
  have opening : MadeOf isShown "(" := .of_all rfl
  have closing : MadeOf isShown ")" := .of_all rfl
  have missing : MadeOf isShown missingOperand := .of_all rfl
  induction tree with
  | absent => exact missing
  | node content left right leftHypothesis rightHypothesis =>
      obtain ⟨root, leftAdmitted, rightAdmitted⟩ := admitted
      have leftShown := leftHypothesis leftAdmitted
      have rightShown := rightHypothesis rightAdmitted
      cases content with
      | blank => exact (.of_all rfl : MadeOf isShown placeholder)
      | operand value => exact (MadeOf.displayNumber root).shown
      | operator op =>
          have symbol : MadeOf isShown op.symbol := op.symbol_shown root
          cases op with
          | unary text apply =>
              rw [render]
              split
              · exact symbol.append leftShown
              · exact symbol
          | binary text apply =>
              rw [render]
              split
              · exact (((opening.append leftShown).append symbol).append rightShown).append closing
              · exact (((opening.append missing).append symbol).append missing).append closing

/-! ### The number being typed -/

namespace Session

def PrintableEntry (session : Session) : Prop :=
  ∀ characters, session.entry = some characters →
    ∀ character ∈ characters, isPrintable character = true

theorem PrintableEntry.of_none {session : Session} (idle : session.entry = none) :
    session.PrintableEntry := by
  intro characters typing
  rw [idle] at typing
  cases typing

theorem PrintableEntry.of_eq {first second : Session} (printable : first.PrintableEntry)
    (same : second.entry = first.entry) : second.PrintableEntry := by
  intro characters typing
  exact printable characters (same ▸ typing)

theorem PrintableEntry.edit (session : Session) {characters : List Char}
    (printable : ∀ character ∈ characters, isPrintable character = true) :
    (session.edit characters).PrintableEntry := by
  intro typed same
  cases same
  exact printable

theorem PrintableEntry.type {session : Session} (printable : session.PrintableEntry)
    {typed : List Char} (new : ∀ character ∈ typed, isPrintable character = true) :
    (session.type typed).1.PrintableEntry := by
  unfold Session.type
  split
  · exact .edit _ new
  · rename_i characters typing
    split
    · exact printable
    · refine .edit _ fun character member => ?_
      exact (List.mem_append.mp member).elim (printable characters typing character) (new character)

theorem PrintableEntry.typePoint {session : Session} (printable : session.PrintableEntry) :
    session.typePoint.1.PrintableEntry := by
  unfold Session.typePoint
  split
  · exact printable
  · exact printable.type fun character member => List.mem_singleton.mp member ▸ rfl

theorem PrintableEntry.toggleSign {session : Session} (printable : session.PrintableEntry) :
    session.toggleSign.PrintableEntry := by
  unfold Session.toggleSign
  split
  · exact .edit _ fun character member => List.mem_singleton.mp member ▸ rfl
  · rename_i rest typing
    exact .edit _ fun character member =>
      printable _ typing character (List.mem_cons_of_mem '-' member)
  · rename_i typing
    refine .edit _ fun character member => ?_
    rcases List.mem_cons.mp member with rfl | old
    · rfl
    · exact printable _ typing character old

/-- Only what is typed may bring other characters into the number. -/
theorem PrintableEntry.act {session : Session} (printable : session.PrintableEntry)
    {action : Action}
    (new : ∀ typed, action = .type typed → ∀ character ∈ typed, isPrintable character = true) :
    (session.act action).PrintableEntry := by
  cases action with
  | type typed => exact printable.type (new typed rfl)
  | point => exact printable.typePoint
  | sign => exact printable.toggleSign
  | operator name => exact .of_none (session.applyOperator_entry _)
  | finish => exact .of_none rfl
  | discard => exact .of_none rfl
  | store request => exact printable.of_eq (session.store_entry request)
  | clear request => exact printable.of_eq (session.clear_entry request)
  | fetch request =>
      change (session.graftStored request).PrintableEntry
      unfold graftStored
      split
      · exact printable
      · exact .of_none rfl

theorem PrintableEntry.entryText {session : Session} (printable : session.PrintableEntry) :
    MadeOf isPrintable session.entryText := by
  unfold Session.entryText
  split
  · exact .of_all rfl
  · exact .of_all rfl
  · rename_i first rest typing
    intro character member
    rw [String.toList_ofList] at member
    exact printable _ typing character member

end Session

/-! ### The message -/

theorem MemoryMode.comment_shown (mode : MemoryMode) {slot : String} (shown : MadeOf isShown slot)
    (accepted : Bool) : MadeOf isShown (mode.comment slot accepted).message := by
  have label (text : String) (known : MadeOf isShown text) : MadeOf isShown ("M" ++ slot ++ text) :=
    ((.of_all rfl : MadeOf isShown "M").append shown).append known
  cases mode with
  | add =>
      cases accepted with
      | true => exact label " GUARDADO" (.of_all rfl)
      | false =>
          have incomplete := label (": " ++ Keypad.incompleteText) (.of_all rfl)
          rw [← String.append_assoc] at incomplete
          exact incomplete
  | fetch =>
      cases accepted with
      | true => exact label " RECUPERADO" (.of_all rfl)
      | false => exact label " VACIA" (.of_all rfl)
  | clear => exact label " BORRADO" (.of_all rfl)

theorem Key.comment?_shown {session : Session} (admitted : session.Admitted .standard)
    {mode : Option MemoryMode} {key : Key} {comment : Comment}
    (commented : key.comment? session mode = some comment) : MadeOf isShown comment.message := by
  have numbered (value : Int) : MadeOf isShown (toString value) := (MadeOf.toString value).shown
  cases key with
  | delete =>
      cases commented
      exact .of_all rfl
  | number value =>
      cases mode with
      | some mode =>
          cases commented
          exact mode.comment_shown (numbered value) _
      | none =>
          cases commented
          split
          · exact (.of_all rfl : MadeOf isShown "OK ").append (numbered value)
          · exact (.of_all rfl : MadeOf isShown "LIMITE DE DIGITOS")
  | point =>
      cases mode with
      | some mode => cases commented
      | none =>
          simp only [comment?] at commented
          split at commented <;> cases commented
          exact .of_all rfl
  | sign =>
      cases mode <;> cases commented
      exact .of_all rfl
  | arithmetic key =>
      cases mode <;> cases commented
      split
      · cases key <;> exact .of_all rfl
      · exact (.of_all rfl : MadeOf isShown Keypad.incompleteText)
  | finish =>
      cases mode <;> cases commented
      exact (.of_all rfl : MadeOf isShown "= ").append
        (MadeOf.displayNumber admitted.live.evaluate).shown
  | memory chosen =>
      cases mode <;> cases commented
      exact .of_all rfl
  | unknown => cases mode <;> cases commented

namespace Keypad

def message (keypad : Keypad) : String :=
  keypad.screen.feedback.message

section Messages

variable {keypad : Keypad}

/-- A key leaves the old message or shows the one of its comment. -/
theorem press_message (admitted : keypad.session.Admitted .standard)
    (shown : MadeOf isShown keypad.message) (key : Key) :
    MadeOf isShown (keypad.press key).keypad.message := by
  rw [message, (keypad.press_commented key).screen]
  cases commented : key.comment? keypad.session keypad.mode with
  | none => exact shown
  | some comment => exact Key.comment?_shown admitted commented

theorem toggleVoice_message : MadeOf isShown keypad.toggleVoice.keypad.message := by
  have status (enabled : Bool) : MadeOf isShown ("VOZ " ++ voiceStatus enabled) := by
    cases enabled <;> exact .of_all rfl
  exact status _

theorem drawing_message (moment : Moment) :
    (keypad.drawing moment).1.message = keypad.message := by
  unfold drawing Screen.draw
  dsimp only
  split
  · rfl
  · unfold Screen.drawFeedback Feedback.draw
    dsimp only
    split <;> rfl

end Messages

/-- All that the window writes has characters that its fonts have, or that are replaced by such. -/
structure Presentable (keypad : Keypad) : Prop where
  admitted : keypad.session.Admitted .standard
  entry : keypad.session.PrintableEntry
  message : MadeOf isShown keypad.message

theorem Presentable.start (settings : Settings) (source : SpeechSource) :
    (Keypad.start settings source).1.Presentable where
  admitted := .start _ _ _
  entry := .of_none rfl
  message := .of_all rfl

theorem press_entry {keypad : Keypad} (printable : keypad.session.PrintableEntry) (key : Key) :
    (keypad.press key).keypad.session.PrintableEntry := by
  rw [(keypad.press_session key).1]
  cases acts : key.action? keypad.mode with
  | none => exact printable
  | some action =>
      refine printable.act fun typed isType => ?_
      obtain ⟨number, _, text⟩ := Key.number_of_action? (acts.trans (congrArg some isType))
      rw [text]
      exact MadeOf.toString number

theorem Presentable.meet {keypad : Keypad} (presentable : keypad.Presentable) (event : Event) :
    (keypad.meet event).Presentable := by
  cases event with
  | key identifier =>
      change (keypad.pressed identifier).Presentable
      unfold pressed process
      cases Key.ofIdentifier identifier with
      | error error => exact presentable
      | ok key =>
          refine ⟨?_, press_entry presentable.entry key,
            press_message presentable.admitted presentable.message key⟩
          change (keypad.press key).keypad.session.Admitted .standard
          rw [(keypad.press_session key).1]
          exact presentable.admitted.run _
  | voice => exact ⟨presentable.admitted, presentable.entry, toggleVoice_message⟩
  | picture moment =>
      exact ⟨presentable.admitted, presentable.entry,
        (drawing_message moment).symm ▸ presentable.message⟩

theorem presentable_meetAll (settings : Settings) (source : SpeechSource) (events : List Event) :
    ((Keypad.start settings source).1.meetAll events).Presentable :=
  meetAll_keeps Presentable (fun _ event presentable => presentable.meet event) _
    (.start settings source) events

end Keypad

/-! ### The texts of a picture -/

def PrintsPlain (calls : List DrawCall) : Prop :=
  ∀ text ∈ DrawCall.texts calls, MadeOf isPrintable text

theorem PrintsPlain.of_texts {calls : List DrawCall} {texts : List String}
    (same : DrawCall.texts calls = texts)
    (printable : (texts.all fun text => text.toList.all isPrintable) = true) :
    PrintsPlain calls := by
  intro text member
  exact .of_mem printable (same ▸ member)

theorem printsPlain_append {first second : List DrawCall} :
    PrintsPlain (first ++ second) ↔ PrintsPlain first ∧ PrintsPlain second := by
  simp only [PrintsPlain, DrawCall.texts, List.filterMap_append, List.forall_mem_append]

theorem PrintsPlain.append {first second : List DrawCall} (begins : PrintsPlain first)
    (ends : PrintsPlain second) : PrintsPlain (first ++ second) :=
  printsPlain_append.mpr ⟨begins, ends⟩

namespace Screen

theorem texts_displayCalls (screen : Screen) (session : Session) (between : List DrawCall) :
    DrawCall.texts (screen.displayCalls session between) =
      [DeskCalculator.plainText session.expressionText, session.entryText] ++
        DrawCall.texts between ++ ["= " ++ session.resultText] := by
  simp only [displayCalls, DrawCall.texts, List.filterMap_append]
  rfl

theorem printsPlain_displayCalls (screen : Screen) {session : Session}
    (admitted : session.Admitted .standard) (entry : session.PrintableEntry)
    {between : List DrawCall} (cursor : PrintsPlain between) :
    PrintsPlain (screen.displayCalls session between) := by
  intro text member
  rw [texts_displayCalls, List.mem_append, List.mem_append] at member
  rcases member with (shown | middle) | result
  · rcases List.mem_cons.mp shown with rfl | typed
    · exact admitted.live.render_shown.plainText
    · exact List.mem_singleton.mp typed ▸ entry.entryText
  · exact cursor text middle
  · rw [List.mem_singleton.mp result]
    exact (.of_all rfl : MadeOf isPrintable "= ").append
      (MadeOf.displayNumber admitted.live.evaluate)

theorem texts_modeCalls (mode : MemoryMode) :
    ∃ label ∈ ["M+", "MR", "MC"],
      DrawCall.texts (modeCalls (some mode.name)) = [label ++ ": elija ranura 0-9"] := by
  cases mode with
  | add => exact ⟨"M+", by decide, rfl⟩
  | fetch => exact ⟨"MR", by decide, rfl⟩
  | clear => exact ⟨"MC", by decide, rfl⟩

theorem texts_drawGuide (screen : Screen) :
    DrawCall.texts screen.drawGuide = if screen.showGuide then guideTitle :: guideLines else [] := by
  unfold drawGuide
  split
  · simp only [guideLines, List.mapIdx_cons, List.mapIdx_nil]
    rfl
  · rfl

theorem printsPlain_drawMemory (memory : Memory) (mode : Option MemoryMode) :
    PrintsPlain (drawMemory memory (mode.map MemoryMode.name)) := by
  refine PrintsPlain.append ?_ ?_
  · intro text member
    rw [DrawCall.texts, List.filterMap_flatMap] at member
    obtain ⟨slot, _, written⟩ := List.mem_flatMap.mp member
    have label : text = "M" ++ toString slot.val := List.mem_singleton.mp written
    rw [label]
    exact (.of_all rfl : MadeOf isPrintable "M").append (MadeOf.toString slot.val)
  · cases mode with
    | none => exact .of_texts rfl rfl
    | some mode =>
        obtain ⟨label, known, texts⟩ := texts_modeCalls mode
        intro text member
        rw [Option.map_some, texts] at member
        rw [List.mem_singleton.mp member]
        exact (MadeOf.of_mem rfl known).append
          (.of_all rfl : MadeOf isPrintable ": elija ranura 0-9")

theorem printsPlain_drawGuide (screen : Screen) : PrintsPlain screen.drawGuide := by
  intro text member
  rw [texts_drawGuide] at member
  split at member
  · exact .of_mem rfl member
  · cases member

theorem texts_drawCursor {session : Session} {moment : Moment} {calls : List DrawCall}
    (drawn : drawCursor session moment = .ok calls) : DrawCall.texts calls = [] := by
  unfold drawCursor at drawn
  split at drawn
  · cases drawn
    rfl
  · cases shows : Clock.showsCursor moment.now with
    | error error =>
        rw [shows] at drawn
        cases drawn
    | ok visible =>
        rw [shows] at drawn
        cases drawn
        cases visible <;> rfl

theorem printsPlain_drawDisplay {screen : Screen} {session : Session}
    (admitted : session.Admitted .standard) (entry : session.PrintableEntry) {moment : Moment}
    {calls : List DrawCall} (drawn : screen.drawDisplay session moment = .ok calls) :
    PrintsPlain calls := by
  unfold drawDisplay at drawn
  cases cursor : drawCursor session moment with
  | error error =>
      rw [cursor] at drawn
      cases drawn
  | ok between =>
      rw [cursor] at drawn
      cases drawn
      exact screen.printsPlain_displayCalls admitted entry
        (.of_texts (texts_drawCursor cursor) rfl)

end Screen

theorem Feedback.texts_paint {feedback : Feedback} {height : Int} {remaining : Nat}
    {calls : List DrawCall} (painted : feedback.paint height remaining = .ok calls) :
    DrawCall.texts calls = [DeskCalculator.plainText feedback.message] := by
  unfold paint at painted
  cases strong : strength remaining with
  | error error =>
      rw [strong] at painted
      cases painted
  | ok strength =>
      rw [strong, Except.bind] at painted
      cases faded : fadedColor strength feedback.color with
      | error error =>
          rw [faded] at painted
          cases painted
      | ok color =>
          rw [faded] at painted
          cases painted
          rfl

theorem Feedback.printsPlain_draw {feedback : Feedback} (shown : MadeOf isShown feedback.message)
    {height : Int} {calls : List DrawCall} (drawn : (feedback.draw height).2 = .ok calls) :
    PrintsPlain calls := by
  unfold Feedback.draw at drawn
  split at drawn
  · dsimp only at drawn
    have texts := texts_paint drawn
    intro text member
    rw [texts] at member
    exact List.mem_singleton.mp member ▸ shown.plainText
  · cases drawn
    exact .of_texts rfl rfl

theorem Screen.printsPlain_drawFeedback {screen : Screen}
    (shown : MadeOf isShown screen.feedback.message) {calls : List DrawCall}
    (drawn : screen.drawFeedback.2 = .ok calls) : PrintsPlain calls := by
  have same : screen.drawFeedback.2 = (screen.feedback.draw screen.height).2 := rfl
  exact Feedback.printsPlain_draw shown (same.symm.trans drawn)

theorem Screen.printsPlain_draw {screen : Screen} {session : Session}
    (admitted : session.Admitted .standard) (entry : session.PrintableEntry)
    (shown : MadeOf isShown screen.feedback.message) (mode : Option MemoryMode) {moment : Moment}
    {calls : List DrawCall}
    (drawn : (screen.draw session (mode.map MemoryMode.name) moment).2 = .ok calls) :
    PrintsPlain calls := by
  unfold Screen.draw at drawn
  cases display : screen.drawDisplay session moment with
  | error error =>
      rw [display] at drawn
      cases drawn
  | ok displayed =>
      rw [display] at drawn
      dsimp only at drawn
      cases feedback : screen.drawFeedback.2 with
      | error error =>
          rw [feedback] at drawn
          cases drawn
      | ok painted =>
          rw [feedback] at drawn
          cases drawn
          exact (((printsPlain_drawDisplay admitted entry display).append
            (printsPlain_drawMemory session.memory mode)).append screen.printsPlain_drawGuide).append
              (printsPlain_drawFeedback shown feedback)

namespace Keypad

/-- Any keys, voice switches and pictures from a new calculator on. Whatever the time is, the window then
writes printable texts only, in the display, in the memory slots, in the guide and in the message; this
holds also for the texts of a display whose cursor cannot be painted. -/
theorem drawn_texts_printable (settings : Settings) (source : SpeechSource)
    (events : List Event) :
    let keypad := (start settings source).1.meetAll events
    let mode := keypad.mode.map MemoryMode.name
    (∀ between, DrawCall.texts between = [] →
      PrintsPlain (keypad.screen.displayCalls keypad.session between)) ∧
    (∀ moment calls, keypad.screen.drawDisplay keypad.session moment = .ok calls → PrintsPlain calls) ∧
    PrintsPlain (Screen.drawMemory keypad.session.memory mode) ∧
    PrintsPlain keypad.screen.drawGuide ∧
    MadeOf isPrintable (plainText keypad.screen.feedback.message) ∧
    (∀ calls, keypad.screen.drawFeedback.2 = .ok calls → PrintsPlain calls) ∧
    ∀ moment calls, (keypad.drawing moment).2 = .ok calls → PrintsPlain calls := by
  intro keypad mode
  have presentable : keypad.Presentable := presentable_meetAll settings source events
  have admitted := presentable.admitted
  have entry := presentable.entry
  refine ⟨fun between none => ?_, fun moment calls drawn => ?_, ?_, ?_, ?_, fun calls drawn => ?_,
    fun moment calls drawn => ?_⟩
  · exact keypad.screen.printsPlain_displayCalls admitted entry (.of_texts none rfl)
  · exact Screen.printsPlain_drawDisplay admitted entry drawn
  · exact Screen.printsPlain_drawMemory keypad.session.memory keypad.mode
  · exact keypad.screen.printsPlain_drawGuide
  · exact presentable.message.plainText
  · exact Screen.printsPlain_drawFeedback presentable.message drawn
  · exact Screen.printsPlain_draw admitted entry presentable.message keypad.mode drawn

end Keypad
end DeskCalculator
