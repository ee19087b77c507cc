import DeskCalculator.Proofs.MemoryHistory
import DeskCalculator.Proofs.RefusedKeys

/-! Memory keys that are slipped in between the keys of an expression. Storing, clearing, and a recall from
an empty slot leave the expression and the number being typed alone, and nothing but a recall looks at
what is in the memory bank. So the other keys do what they would have done without them. -/

namespace DeskCalculator

namespace Session

/-! ### Sessions that differ in their memory bank -/

def withMemory (session : Session) (memory : Memory) : Session :=
  { session with memory := memory }

theorem type_withMemory (session : Session) (memory : Memory) (typed : List Char) :
    (session.withMemory memory).type typed =
      ((session.type typed).1.withMemory memory, (session.type typed).2) := by
  obtain ⟨registry, inputLimit, verbose, tree, entry, bank⟩ := session
  unfold type withMemory isFull
  dsimp only
  split
  · rfl
  · split <;> rfl

theorem typePoint_withMemory (session : Session) (memory : Memory) :
    (session.withMemory memory).typePoint =
      (session.typePoint.1.withMemory memory, session.typePoint.2) := by
  unfold typePoint
  change (if (session.entry.getD []).contains '.' then _ else _) = _
  split
  · rfl
  · exact session.type_withMemory memory ['.']

theorem toggleSign_withMemory (session : Session) (memory : Memory) :
    (session.withMemory memory).toggleSign = session.toggleSign.withMemory memory := by
  obtain ⟨registry, inputLimit, verbose, tree, entry, bank⟩ := session
  unfold toggleSign withMemory
  dsimp only
  split <;> rfl

theorem pressOperator_withMemory (session : Session) (memory : Memory) (name : String) :
    (session.withMemory memory).pressOperator name =
      ((session.pressOperator name).1.withMemory memory, (session.pressOperator name).2) := by
  unfold pressOperator applyOperator
  rw [show (session.withMemory memory).registry = session.registry from rfl]
  cases session.registry.lookup? name with
  | none => rfl
  | some op =>
      dsimp only [endNumber, withMemory]
      split
      · rfl
      · split <;> rfl

/-- Only a recall looks at what is in the memory bank. -/
theorem act_withMemory (session : Session) (memory : Memory) {action : Action}
    (noFetch : ∀ request, action ≠ .fetch request) :
    (∃ after, (session.withMemory memory).act action = (session.act action).withMemory after) ∧
    (session.withMemory memory).accepts action = session.accepts action := by
  cases action with
  | type typed =>
      have typedToo := session.type_withMemory memory typed
      exact ⟨⟨memory, congrArg Prod.fst typedToo⟩, congrArg (·.2.isSome) typedToo⟩
  | point =>
      have typed := session.typePoint_withMemory memory
      exact ⟨⟨memory, congrArg Prod.fst typed⟩, congrArg (·.2.isSome) typed⟩
  | sign => exact ⟨⟨memory, session.toggleSign_withMemory memory⟩, rfl⟩
  | operator name =>
      have pressed := session.pressOperator_withMemory memory name
      exact ⟨⟨memory, congrArg Prod.fst pressed⟩, congrArg (·.2.isSome) pressed⟩
  | finish => exact ⟨⟨memory, rfl⟩, rfl⟩
  | discard => exact ⟨⟨memory, rfl⟩, rfl⟩
  | store request =>
      have live : (session.withMemory memory).tree = session.tree := rfl
      simp only [act, accepts, store, live]
      cases request.slot? with
      | none => exact ⟨⟨memory, rfl⟩, rfl⟩
      | some slot =>
          dsimp only
          split
          · exact ⟨⟨_, rfl⟩, rfl⟩
          · exact ⟨⟨memory, rfl⟩, rfl⟩
  | clear request =>
      simp only [act, clear]
      cases request.slot? with
      | none => exact ⟨⟨memory, rfl⟩, rfl⟩
      | some slot => exact ⟨⟨_, rfl⟩, rfl⟩
  | fetch request => exact absurd rfl (noFetch request)

/-- A memory operation that recalls nothing changes nothing but the memory bank. -/
theorem act_of_empty (session : Session) (mode : MemoryMode) (slot : Fin slotCount)
    (empty : mode = .fetch → session.memory.get slot = none) :
    ∃ memory, session.act (mode.action (.number slot.val)) = session.withMemory memory := by
  have named : (SlotRequest.number slot.val).slot? = some slot :=
    (SlotRequest.slot?_eq_some_iff _ slot).mpr (.inl rfl)
  cases mode with
  | add =>
      simp only [MemoryMode.action, act, store, named]
      split
      · exact ⟨_, rfl⟩
      · exact ⟨session.memory, rfl⟩
  | clear =>
      simp only [MemoryMode.action, act, clear, named]
      exact ⟨_, rfl⟩
  | fetch =>
      simp only [MemoryMode.action, act, graftStored, fetch_of_slot named, empty rfl]
      exact ⟨session.memory, rfl⟩

end Session

namespace Key

theorem action?_not_fetch {key : Key} {mode : Option MemoryMode} (noFetch : mode ≠ some .fetch)
    {action : Session.Action} (acts : key.action? mode = some action) :
    ∀ request, action ≠ .fetch request := by
  rintro request rfl
  cases mode with
  | none => cases key <;> cases acts
  | some mode =>
      cases key with
      | number value =>
          cases mode with
          | fetch => exact noFetch rfl
          | _ => cases acts
      | _ => cases acts

/-- There is one key that makes a recall wait for its slot. -/
theorem fetch_of_ofIdentifier {identifier : CodeText}
    (named : ofIdentifier identifier = .ok (memory .fetch)) : identifier = "mem_recall" := by
  have single : ∀ entry ∈ layout, entry.2 = memory .fetch → entry.1 = "mem_recall" := by decide
  unfold ofIdentifier at named
  cases marked : afterNumberMark? identifier with
  | some rest =>
      rw [marked] at named
      dsimp only [number?] at named
      split at named <;> cases named
  | none =>
      rw [marked] at named
      cases written : identifier.toString? with
      | none =>
          rw [written] at named
          cases named
      | some name =>
          rw [written] at named
          have same : Key.named name = memory .fetch := Except.ok.inj named
          have member := mem_layout_named name (by simp [same])
          rw [CodeText.eq_ofString_of_toString? written]
          exact single _ member same

end Key

def MemoryMode.identifier : MemoryMode → CodeText
  | .add => "mem_add"
  | .fetch => "mem_recall"
  | .clear => "mem_clear"

def slotIdentifier (slot : Fin slotCount) : CodeText :=
  .ofString ("num_" ++ toString slot.val)

theorem ofIdentifier_mode (mode : MemoryMode) :
    Key.ofIdentifier mode.identifier = .ok (.memory mode) := by
  cases mode <;> rfl

theorem ofIdentifier_slot (slot : Fin slotCount) :
    Key.ofIdentifier (slotIdentifier slot) = .ok (.number slot.val) := by
  have placed : ∀ slot : Fin slotCount, (slotIdentifier slot, Key.number slot.val) ∈ Key.layout := by
    decide +kernel
  exact Key.ofIdentifier_layout (slotIdentifier slot, .number slot.val) (placed slot)

namespace Keypad

/-! ### Calculators that differ in their memory bank -/

/-- The expression, the number being typed and the memory key that waits are the same. -/
structure SameEdition (first second : Keypad) : Prop where
  session : ∃ memory, first.session = second.session.withMemory memory
  mode : first.mode = second.mode

theorem SameEdition.press {first second : Keypad} (same : first.SameEdition second)
    (noFetch : second.mode ≠ some .fetch) (key : Key) :
    (first.press key).keypad.SameEdition (second.press key).keypad ∧
      (first.press key).accepted = (second.press key).accepted := by
  obtain ⟨⟨memory, session⟩, mode⟩ := same
  obtain ⟨firstRun, firstAnswer⟩ := first.press_session key
  obtain ⟨secondRun, secondAnswer⟩ := second.press_session key
  refine ⟨⟨?_, by rw [press_mode, press_mode, mode]⟩, ?_⟩
  · rw [firstRun, secondRun, session, mode]
    cases acts : key.action? second.mode with
    | none => exact ⟨memory, rfl⟩
    | some action =>
        exact (second.session.act_withMemory memory (Key.action?_not_fetch noFetch acts)).1
  · rw [firstAnswer, secondAnswer, session, mode]
    unfold Key.answer
    cases acts : key.action? second.mode with
    | none => rfl
    | some action =>
        have sameAnswer :=
          (second.session.act_withMemory memory (Key.action?_not_fetch noFetch acts)).2
        cases action with
        | clear request => rfl
        | _ => exact sameAnswer

theorem SameEdition.pressed {first second : Keypad} (same : first.SameEdition second)
    (noFetch : second.mode ≠ some .fetch) (identifier : CodeText) :
    (first.pressed identifier).SameEdition (second.pressed identifier) ∧
      (first.process identifier).map Handled.accepted =
        (second.process identifier).map Handled.accepted := by
  unfold Keypad.pressed process
  cases Key.ofIdentifier identifier with
  | error error => exact ⟨same, rfl⟩
  | ok key =>
      obtain ⟨pressed, accepted⟩ := same.press noFetch key
      exact ⟨pressed, congrArg Except.ok accepted⟩

theorem pressed_not_fetch {keypad : Keypad} (noFetch : keypad.mode ≠ some .fetch)
    {identifier : CodeText} (other : identifier ≠ "mem_recall") :
    (keypad.pressed identifier).mode ≠ some .fetch := by
  unfold pressed process
  cases named : Key.ofIdentifier identifier with
  | error error => exact noFetch
  | ok key =>
      change (keypad.press key).keypad.mode ≠ some .fetch
      have notFetch : key ≠ .memory .fetch := by
        rintro rfl
        exact other (Key.fetch_of_ofIdentifier named)
      rw [press_mode]
      split
      · nofun
      · cases waiting : keypad.mode with
        | some mode =>
            rw [waiting] at noFetch
            exact noFetch
        | none =>
            cases key with
            | memory mode => exact fun same => notFetch (congrArg Key.memory (Option.some.inj same))
            | _ => nofun

/-! ### Asides -/

inductive Part where
  | key (identifier : CodeText)
  | aside (mode : MemoryMode) (slot : Fin slotCount)

namespace Part

def identifiers : Part → List CodeText
  | key identifier => [identifier]
  | aside mode slot => [mode.identifier, slotIdentifier slot]

def own? : Part → Option CodeText
  | key identifier => some identifier
  | aside _ _ => none

/-- The keys of the expression recall nothing. An aside comes while no memory key waits, and recalls
nothing either. -/
def fits (keypad : Keypad) : Part → Bool
  | key identifier => identifier ≠ "mem_recall"
  | aside mode slot =>
    keypad.mode = none && (mode ≠ .fetch || (keypad.session.memory.get slot).isNone)

theorem fits_key {keypad : Keypad} {identifier : CodeText} (fits : (key identifier).fits keypad) :
    identifier ≠ "mem_recall" :=
  of_decide_eq_true fits

theorem fits_aside {keypad : Keypad} {mode : MemoryMode} {slot : Fin slotCount}
    (fits : (aside mode slot).fits keypad) :
    keypad.mode = none ∧ (mode = .fetch → keypad.session.memory.get slot = none) := by
  obtain ⟨idle, empty⟩ := Bool.and_eq_true_iff.mp fits
  refine ⟨of_decide_eq_true idle, ?_⟩
  rintro rfl
  exact Option.isNone_iff_eq_none.mp empty

end Part

def fitAll (keypad : Keypad) : List Part → Bool
  | [] => true
  | part :: rest => part.fits keypad && (keypad.pressAll part.identifiers).fitAll rest

theorem fitAll_append (keypad : Keypad) (earlier later : List Part) :
    keypad.fitAll (earlier ++ later) =
      (keypad.fitAll earlier &&
        (keypad.pressAll (earlier.flatMap Part.identifiers)).fitAll later) := by
  induction earlier generalizing keypad with
  | nil => rfl
  | cons part rest inductionHypothesis =>
      rw [List.flatMap_cons, pressAll_append, List.cons_append, fitAll, fitAll,
        inductionHypothesis, Bool.and_assoc]

/-- An aside changes nothing but the memory bank. -/
theorem pressAll_aside {keypad : Keypad} {mode : MemoryMode} {slot : Fin slotCount}
    (fits : (Part.aside mode slot).fits keypad) :
    (keypad.pressAll (Part.aside mode slot).identifiers).SameEdition keypad := by
  obtain ⟨idle, empty⟩ := Part.fits_aside fits
  have waits : (keypad.press (.memory mode)).keypad.mode = some mode := press_idle_mode idle
  have kept : (keypad.press (.memory mode)).keypad.session = keypad.session := by
    rw [(keypad.press_session (.memory mode)).1, idle]
    rfl
  rw [Part.identifiers, pressAll, List.foldl_cons, List.foldl_cons, List.foldl_nil,
    pressed_ofIdentifier (ofIdentifier_mode mode), pressed_ofIdentifier (ofIdentifier_slot slot)]
  constructor
  · rw [(press_session _ _).1, waits, kept]
    exact keypad.session.act_of_empty mode slot empty
  · rw [press_mode, waits]
    exact idle.symm

theorem SameEdition.trans {first second third : Keypad} (same : first.SameEdition second)
    (further : second.SameEdition third) : first.SameEdition third := by
  obtain ⟨memory, session⟩ := same.session
  obtain ⟨other, sessionToo⟩ := further.session
  refine ⟨⟨memory, ?_⟩, same.mode.trans further.mode⟩
  rw [session, sessionToo]
  rfl

/-- The asides leave no trace but in the memory bank. -/
theorem SameEdition.pressParts {first second : Keypad} (same : first.SameEdition second)
    (noFetch : second.mode ≠ some .fetch) {parts : List Part} (fit : first.fitAll parts) :
    (first.pressAll (parts.flatMap Part.identifiers)).SameEdition
        (second.pressAll (parts.filterMap Part.own?)) ∧
      (second.pressAll (parts.filterMap Part.own?)).mode ≠ some .fetch := by
  induction parts generalizing first second with
  | nil => exact ⟨same, noFetch⟩
  | cons part rest inductionHypothesis =>
      obtain ⟨fits, others⟩ := Bool.and_eq_true_iff.mp fit
      rw [List.flatMap_cons, pressAll_append]
      cases part with
      | key identifier =>
          rw [List.filterMap_cons_some (rfl : (Part.key identifier).own? = some identifier)]
          exact inductionHypothesis (same.pressed noFetch identifier).1
            (pressed_not_fetch noFetch (Part.fits_key fits)) others
      | aside mode slot =>
          rw [List.filterMap_cons_none (rfl : (Part.aside mode slot).own? = none)]
          exact inductionHypothesis ((pressAll_aside fits).trans same) noFetch others

/-- Keys from a new calculator on, none of which recalls anything, with asides in between: memory keys
with the numbers of their slots, which store, clear or find nothing, while no other memory key waits. With
the asides and without them each key is answered alike, and leaves the same expression, the same number
being typed and the same memory key waiting. -/
theorem memory_asides_keep_edition (settings : Settings) (source : SpeechSource) (parts : List Part)
    (fit : (start settings source).1.fitAll parts) :
    let start := (start settings source).1
    (∀ mode, Key.ofIdentifier (MemoryMode.identifier mode) = .ok (.memory mode)) ∧
    (∀ slot, Key.ofIdentifier (slotIdentifier slot) = .ok (.number slot.val)) ∧
    (∀ earlier identifier later, parts = earlier ++ .key identifier :: later →
      let first := start.pressAll (earlier.flatMap Part.identifiers)
      let second := start.pressAll (earlier.filterMap Part.own?)
      (first.process identifier).map Handled.accepted =
          (second.process identifier).map Handled.accepted ∧
        (first.pressed identifier).session.tree = (second.pressed identifier).session.tree ∧
        (first.pressed identifier).session.entry = (second.pressed identifier).session.entry ∧
        (first.pressed identifier).mode = (second.pressed identifier).mode) ∧
    (let first := start.pressAll (parts.flatMap Part.identifiers)
      let second := start.pressAll (parts.filterMap Part.own?)
      first.session.tree = second.session.tree ∧ first.session.entry = second.session.entry) := by
  intro start
  have same : start.SameEdition start := ⟨⟨start.session.memory, rfl⟩, rfl⟩
  have noFetch : start.mode ≠ some .fetch := nofun
  refine ⟨ofIdentifier_mode, ofIdentifier_slot, ?_, ?_⟩
  · rintro earlier identifier later rfl
    rw [fitAll_append] at fit
    obtain ⟨between, idle⟩ := same.pressParts noFetch (Bool.and_eq_true_iff.mp fit).1
    obtain ⟨⟨⟨memory, session⟩, mode⟩, answer⟩ := between.pressed idle identifier
    refine ⟨answer, ?_, ?_, mode⟩
    · rw [session]
      rfl
    · rw [session]
      rfl
  · obtain ⟨memory, session⟩ := (same.pressParts noFetch fit).1.session
    intro first second
    have session : first.session = second.session.withMemory memory := session
    rw [session]
    exact ⟨rfl, rfl⟩

/-- A number is typed with a recall from an empty slot, a storing and a clearing between its digits. -/
theorem memory_asides_keep_number :
    let parts : List Part :=
      [.key "num_1", .aside .fetch 3, .key "num_2", .aside .add 3, .key "dot", .aside .clear 5,
        .key "num_5"]
    let start := (start {} fun _ => .error "no engine").1
    let keypad := start.pressAll (parts.flatMap Part.identifiers)
    let typed := start.pressAll ["num_1", "num_2", "dot", "num_5"]
    start.fitAll parts = true ∧
      keypad.session.entry = some "12.5".toList ∧ keypad.session.memory.occupied = [3] ∧
      keypad.session.tree = typed.session.tree := by
  intro parts start keypad typed
  have fit : start.fitAll parts = true := by decide +kernel
  have own : parts.filterMap Part.own? =
      (["num_1", "num_2", "dot", "num_5"] : List CodeText) := rfl
  obtain ⟨_, _, _, tree, entry⟩ :=
    memory_asides_keep_edition {} (fun _ => .error "no engine") parts fit
  rw [own] at tree entry
  refine ⟨fit, ?_, ?_, ?_⟩
  · rw [entry]
    decide +kernel
  · decide +kernel
  · rw [tree]

end Keypad
end DeskCalculator
