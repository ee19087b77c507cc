import DeskCalculator.Keypad.Processing
import DeskCalculator.Proofs.SessionRuns

/-! The memory keys of the keypad. A memory key waits for the number of its slot; until then it is the
first one that counts, and no other key does anything but the delete key. -/

namespace DeskCalculator

def MemoryMode.action : MemoryMode → SlotRequest → Session.Action
  | .add => .store
  | .fetch => .fetch
  | .clear => .clear

theorem CodeText.eq_ofString_of_toString? {text : CodeText} {written : String}
    (same : text.toString? = some written) : text = .ofString written := by
  obtain ⟨characters, read, rfl⟩ := Option.map_eq_some_iff.mp same
  rw [ofString, String.toList_ofList]
  clear same
  induction text generalizing characters with
  | nil =>
      cases read
      rfl
  | cons point rest inductionHypothesis =>
      cases point with
      | surrogate offset => cases read
      | scalar character =>
          rw [List.mapM_cons] at read
          obtain ⟨first, readFirst, readMore⟩ := Option.bind_eq_some_iff.mp read
          obtain ⟨others, readRest, joined⟩ := Option.bind_eq_some_iff.mp readMore
          cases readFirst
          cases joined
          rw [inductionHypothesis others readRest]
          rfl

namespace Key

def layout : List (CodeText × Key) :=
  [("num_0", number 0), ("num_1", number 1), ("num_2", number 2), ("num_3", number 3),
    ("num_4", number 4), ("num_5", number 5), ("num_6", number 6), ("num_7", number 7),
    ("num_8", number 8), ("num_9", number 9), ("dot", point), ("negate", sign),
    ("add", arithmetic .add), ("subtract", arithmetic .subtract),
    ("multiply", arithmetic .multiply), ("divide", arithmetic .divide),
    ("sqrt", arithmetic .sqrt), ("enter", finish), ("delete", delete),
    ("mem_add", memory .add), ("mem_recall", memory .fetch), ("mem_clear", memory .clear)]

def memory? : Key → Option MemoryMode
  | memory mode => some mode
  | _ => none

/-- Whether a key ends the waiting of a memory key: the delete key does, and a number does when it
names the slot. -/
def endsWaiting (mode : Option MemoryMode) : Key → Bool
  | delete => true
  | number _ => mode.isSome
  | _ => false

theorem ofIdentifier_layout (entry : CodeText × Key) (member : entry ∈ layout) :
    ofIdentifier entry.1 = .ok entry.2 := by
  have checked : ∀ entry ∈ layout, (ofIdentifier entry.1).toOption = some entry.2 := by
    decide +kernel
  have named := checked entry member
  cases found : ofIdentifier entry.1 with
  | error error =>
      rw [found] at named
      cases named
  | ok key =>
      rw [found] at named
      exact congrArg Except.ok (Option.some.inj named)

theorem mem_layout_named (name : String) (known : named name ≠ unknown) :
    (CodeText.ofString name, named name) ∈ layout := by
  unfold named at known ⊢
  split at known
  case h_13 => exact absurd rfl known
  all_goals decide +kernel

theorem ofIdentifier_unknown (identifier : CodeText)
    (unmarked : afterNumberMark? identifier = none)
    (absent : ∀ key, (identifier, key) ∉ layout) : ofIdentifier identifier = .ok unknown := by
  unfold ofIdentifier
  rw [unmarked]
  cases written : identifier.toString? with
  | none => rfl
  | some name =>
      have text : identifier = .ofString name := CodeText.eq_ofString_of_toString? written
      by_cases known : named name = unknown
      · exact congrArg Except.ok known
      · exact absurd (text ▸ mem_layout_named name known) (absent (named name))

end Key

namespace Keypad

/-- A key that is an error leaves the calculator as it is. -/
def pressed (keypad : Keypad) (identifier : CodeText) : Keypad :=
  match keypad.process identifier with
  | .ok handled => handled.keypad
  | .error _ => keypad

def pressAll (keypad : Keypad) (identifiers : List CodeText) : Keypad :=
  identifiers.foldl pressed keypad

theorem process_ofIdentifier {identifier : CodeText} {key : Key}
    (named : Key.ofIdentifier identifier = .ok key) (keypad : Keypad) :
    keypad.process identifier = .ok (keypad.press key) := by
  rw [process, named]
  rfl

theorem pressed_ofIdentifier {identifier : CodeText} {key : Key}
    (named : Key.ofIdentifier identifier = .ok key) (keypad : Keypad) :
    keypad.pressed identifier = (keypad.press key).keypad := by
  rw [pressed, process_ofIdentifier named]

theorem pressAll_append (keypad : Keypad) (earlier later : List CodeText) :
    keypad.pressAll (earlier ++ later) = (keypad.pressAll earlier).pressAll later :=
  List.foldl_append

/-- The keys since the last one that ended the waiting of a memory key, after some earlier ones. -/
def pressedSince (keypad : Keypad) (earlier : List Key) : List CodeText → List Key
  | [] => earlier
  | identifier :: rest =>
    let recent :=
      match Key.ofIdentifier identifier with
      | .ok key => if key.endsWaiting keypad.mode then [] else earlier ++ [key]
      | .error _ => earlier
    (keypad.pressed identifier).pressedSince recent rest

/-- The memory operation is the only change of the session, also when it fails. -/
theorem operateMemory_keypad (keypad : Keypad) (mode : MemoryMode) (number : Int) :
    (keypad.operateMemory mode number).keypad.mode = none ∧
    (keypad.operateMemory mode number).keypad.session =
      keypad.session.act (mode.action (.number number)) := by
  cases mode with
  | clear => exact ⟨rfl, rfl⟩
  | add =>
      simp only [operateMemory]
      split <;> exact ⟨rfl, rfl⟩
  | fetch =>
      change _ ∧ _ = keypad.session.graftStored (.number number)
      cases found : (keypad.session.fetch (.number number)).answer <;>
        simp only [operateMemory, Session.graftStored, Session.fetch_session, found] <;>
        exact ⟨rfl, rfl⟩

theorem typeNumber_keypad (keypad : Keypad) (number : Int) :
    (keypad.typeNumber number).keypad.mode = keypad.mode ∧
    (keypad.typeNumber number).keypad.session =
      (keypad.session.type (toString number).toList).1 ∧
    (keypad.typeNumber number).accepted =
      (keypad.session.type (toString number).toList).2.isSome := by
  cases typed : keypad.session.type (toString number).toList with
  | mk session answer =>
      cases answer with
      | some characters =>
          simp only [typeNumber, typed]
          exact ⟨rfl, rfl, rfl⟩
      | none =>
          have refused : session = keypad.session := by
            have same := Session.type_refused (congrArg Prod.snd typed)
            rw [typed] at same
            exact same
          simp only [typeNumber, typed]
          exact ⟨rfl, refused.symm, rfl⟩

/-! ### One key -/

section Press

variable {keypad : Keypad}

theorem press_delete : keypad.press .delete = keypad.pressDelete := by
  unfold press
  cases keypad.mode <;> rfl

theorem press_slot {mode : MemoryMode} (armed : keypad.mode = some mode) (number : Int) :
    keypad.press (.number number) = keypad.operateMemory mode number := by
  unfold press
  rw [armed]

theorem press_number (idle : keypad.mode = none) (number : Int) :
    keypad.press (.number number) = keypad.typeNumber number := by
  unfold press
  rw [idle]

theorem press_waiting {mode : MemoryMode} {key : Key} (armed : keypad.mode = some mode)
    (kept : key.endsWaiting keypad.mode = false) : keypad.press key = ⟨keypad, false, []⟩ := by
  unfold press
  rw [armed] at kept ⊢
  cases key with
  | number value => cases kept
  | delete => cases kept
  | _ => rfl

theorem press_idle_mode {key : Key} (idle : keypad.mode = none) :
    (keypad.press key).keypad.mode = key.memory? := by
  cases key with
  | number value =>
      rw [press_number idle]
      exact (keypad.typeNumber_keypad value).1.trans idle
  | delete =>
      rw [press_delete]
      rfl
  | point =>
      simp only [press, idle, pressPoint]
      split
      · exact idle
      · rfl
  | arithmetic key =>
      simp only [press, idle, pressArithmetic]
      split <;> rfl
  | memory mode =>
      simp only [press, idle]
      rfl
  | _ =>
      simp only [press, idle]
      exact idle

theorem press_mode (key : Key) :
    (keypad.press key).keypad.mode =
      if key.endsWaiting keypad.mode then none else keypad.mode.or key.memory? := by
  cases waiting : keypad.mode with
  | none =>
      rw [press_idle_mode waiting]
      cases key <;> rfl
  | some mode =>
      by_cases ends : key.endsWaiting keypad.mode = true
      · rw [← waiting, if_pos ends]
        cases key with
        | number value =>
            rw [press_slot waiting]
            exact (keypad.operateMemory_keypad mode value).1
        | delete =>
            rw [press_delete]
            rfl
        | _ => cases ends
      · rw [press_waiting waiting (Bool.eq_false_iff.mpr ends), ← waiting, if_neg ends, waiting]
        rfl

end Press

/-! ### All keys -/

/-- The first memory key since the waiting last ended is the one that waits. -/
theorem mode_pressAll (keypad : Keypad) (earlier : List Key) (identifiers : List CodeText)
    (first : keypad.mode = earlier.findSome? Key.memory?) :
    (keypad.pressAll identifiers).mode =
      (keypad.pressedSince earlier identifiers).findSome? Key.memory? := by
  induction identifiers generalizing keypad earlier with
  | nil => exact first
  | cons identifier rest inductionHypothesis =>
      apply inductionHypothesis
      unfold pressed process
      cases named : Key.ofIdentifier identifier with
      | error error => exact first
      | ok key =>
          change (keypad.press key).keypad.mode =
            (if key.endsWaiting keypad.mode then [] else earlier ++ [key]).findSome? Key.memory?
          rw [press_mode]
          split
          · rfl
          · rw [first, List.findSome?_append, List.findSome?_singleton]

end Keypad
end DeskCalculator
