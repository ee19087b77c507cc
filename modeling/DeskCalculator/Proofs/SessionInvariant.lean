import DeskCalculator.Proofs.SessionRuns
import DeskCalculator.Proofs.TreeShape

/-! What holds of every session that a run can reach. The live tree is a growing one, the memory
bank holds complete trees, and a number that is being typed stands in the live tree as the operand
that was grafted last. -/

namespace DeskCalculator

theorem Memory.get_set (memory : Memory) (slot asked : Fin slotCount) (held : Option Tree) :
    Vector.get (memory.set slot held slot.isLt) asked =
      if slot = asked then held else memory.get asked := by
  change (memory.set slot held slot.isLt)[asked.val] =
    if slot = asked then held else memory[asked.val]
  rw [Vector.getElem_set]
  simp only [Fin.ext_iff]

theorem Memory.get_empty (slot : Fin slotCount) : Memory.empty.get slot = none := by
  change (Vector.replicate slotCount none)[slot.val] = none
  exact Vector.getElem_replicate slot.isLt

namespace Session

/-- Enters a number at once: one graft of its value, whatever keys its characters take. -/
def enter (session : Session) (characters : List Char) : Session :=
  { session with
    entry := some characters
    tree := session.tree.graft (.operand (Numeral.finite? characters)) }

theorem openOperand_edit (session : Session) (growing : session.tree.Growing)
    (value : Option Float) (characters : List Char) :
    (session.openOperand value).edit characters = session.enter characters := by
  have placed : (session.tree.graft (.operand value)).editLeaf (Numeral.finite? characters) =
      session.tree.graft (.operand (Numeral.finite? characters)) :=
    growing.editLeaf_graft _ rfl
  simp only [edit, openOperand, enter, placed]

def toggled : List Char → List Char
  | '-' :: rest => rest
  | characters => '-' :: characters

theorem toggleSign_idle {session : Session} (idle : session.entry = none) :
    session.toggleSign = (session.openOperand none).edit ['-'] := by
  rw [toggleSign, idle]

theorem toggled_unsigned {characters : List Char} (unsigned : ∀ rest, characters ≠ '-' :: rest) :
    toggled characters = '-' :: characters := by
  unfold toggled
  split
  · exact absurd rfl (unsigned _)
  · rfl

theorem toggleSign_typing {session : Session} {characters : List Char}
    (typing : session.entry = some characters) :
    session.toggleSign = session.edit (toggled characters) := by
  unfold toggleSign
  split
  · rename_i idle
    cases typing.symm.trans idle
  · rename_i rest signed
    cases typing.symm.trans signed
    rfl
  · rename_i unsigned same
    cases typing.symm.trans same
    rw [toggled_unsigned unsigned]

def wrapped (session : Session) (op : Operator) : Session :=
  { session with
    entry := none
    tree := .node (.operator op) session.tree .absent }

theorem applyOperator_of_blank {session : Session} {left right : Tree}
    (blank : session.tree = .node .blank left right) (op : Operator) :
    session.applyOperator (some op) =
      ({ session.endNumber with tree := .node (.operator op) left right }, some op.symbol) := by
  have filled : session.tree.graftOperator? op = some (.node (.operator op) left right) := by
    rw [blank]
    rfl
  simp only [applyOperator, endNumber, filled]

theorem graftOperator?_of_not_blank {tree : Tree} (inner : tree.isBlank = false) (op : Operator) :
    tree.graftOperator? op = none := by
  cases tree with
  | absent => rfl
  | node content left right =>
      cases content with
      | blank => cases inner
      | operand _ => rfl
      | operator _ => rfl

theorem applyOperator_of_undefined {session : Session} (inner : session.tree.isBlank = false)
    (undefined : session.tree.evaluate = none) (op : Operator) :
    session.applyOperator (some op) = (session.endNumber, none) := by
  simp only [applyOperator, endNumber, graftOperator?_of_not_blank inner op, undefined]

theorem applyOperator_of_evaluate (session : Session) (op : Operator) {value : Float}
    (defined : session.tree.evaluate = some value) :
    session.applyOperator (some op) = (session.wrapped op, some op.symbol) := by
  have inner : session.tree.isBlank = false := by
    generalize session.tree = tree at defined
    cases tree with
    | absent => rfl
    | node content left right =>
        cases content with
        | blank => cases defined
        | operand _ => rfl
        | operator _ => rfl
  simp only [applyOperator, endNumber, graftOperator?_of_not_blank inner op, defined,
    Tree.graft_bare, wrapped]

theorem applyOperator_refused {session : Session} {op? : Option Operator}
    (refused : (session.applyOperator op?).2 = none) :
    (session.applyOperator op?).1 = session.endNumber ∧
      (op?.isSome = true → session.tree.evaluate = none) := by
  cases op? with
  | none => exact ⟨rfl, nofun⟩
  | some op =>
      cases value : session.tree.evaluate with
      | some value =>
          rw [session.applyOperator_of_evaluate op value] at refused
          cases refused
      | none =>
          refine ⟨?_, fun _ => rfl⟩
          cases filled : session.tree.graftOperator? op with
          | some tree =>
              simp only [applyOperator, endNumber, filled] at refused
              cases refused
          | none => simp only [applyOperator, endNumber, filled, value]

structure Sound (session : Session) : Prop where
  growing : session.tree.Growing
  stored : ∀ slot tree, session.memory.get slot = some tree → tree.Complete
  grafted : ∀ characters, session.entry = some characters →
    ∃ base : Tree, base.Growing ∧
      session.tree = base.graft (.operand (Numeral.finite? characters))

theorem Sound.start (registry : Registry) (inputLimit : Int) (verbose : Bool) :
    (Session.start registry inputLimit verbose).Sound where
  growing := .blank
  stored := by
    intro slot tree held
    change Memory.empty.get slot = some tree at held
    rw [Memory.get_empty] at held
    cases held
  grafted := by
    intro characters typing
    cases typing

theorem Sound.enter {session : Session} (sound : session.Sound) (characters : List Char) :
    (session.enter characters).Sound where
  growing := sound.growing.graft (.operand _)
  stored := sound.stored
  grafted := by
    intro typed typing
    cases typing
    exact ⟨session.tree, sound.growing, rfl⟩

theorem Sound.edit {session : Session} (sound : session.Sound) {old : List Char}
    (typing : session.entry = some old) (characters : List Char) :
    (session.edit characters).Sound := by
  -- The edit finds the operand grafted for the old characters, so it is a graft for the new ones.
  obtain ⟨base, growing, placed⟩ := sound.grafted old typing
  have moved : session.tree.editLeaf (Numeral.finite? characters) =
      base.graft (.operand (Numeral.finite? characters)) := by
    rw [placed]
    exact growing.editLeaf_graft _ rfl
  refine ⟨?_, sound.stored, ?_⟩
  · change (session.tree.editLeaf (Numeral.finite? characters)).Growing
    rw [moved]
    exact growing.graft (.operand _)
  · intro typed same
    cases same
    exact ⟨base, growing, moved⟩

theorem Sound.idle {session : Session} (idle : session.entry = none)
    (growing : session.tree.Growing)
    (stored : ∀ slot tree, session.memory.get slot = some tree → tree.Complete) :
    session.Sound := by
  refine ⟨growing, stored, ?_⟩
  intro characters typing
  rw [idle] at typing
  cases typing

theorem Sound.type {session : Session} (sound : session.Sound) (typed : List Char) :
    (session.type typed).1.Sound := by
  unfold Session.type
  split
  · rw [openOperand_edit session sound.growing]
    exact sound.enter typed
  · rename_i characters typing
    split
    · exact sound
    · exact sound.edit typing _

theorem Sound.typePoint {session : Session} (sound : session.Sound) :
    session.typePoint.1.Sound := by
  unfold Session.typePoint
  split
  · exact sound
  · exact sound.type _

theorem Sound.toggleSign {session : Session} (sound : session.Sound) :
    session.toggleSign.Sound := by
  unfold Session.toggleSign
  split
  · rw [openOperand_edit session sound.growing]
    exact sound.enter _
  · rename_i typing
    exact sound.edit typing _
  · rename_i typing
    exact sound.edit typing _

theorem Sound.endNumber {session : Session} (sound : session.Sound) : session.endNumber.Sound :=
  .idle rfl sound.growing sound.stored

theorem Sound.applyOperator {session : Session} (sound : session.Sound) (op? : Option Operator) :
    (session.applyOperator op?).1.Sound := by
  unfold Session.applyOperator
  cases op? with
  | none => exact sound.endNumber
  | some op =>
      dsimp only
      split
      · rename_i grown grafted
        have bare : grown = .bare op := Tree.Growing.graftOperator sound.growing grafted
        subst bare
        exact .idle rfl (.bare op) sound.stored
      · split
        · exact sound.endNumber
        · rename_i value defined
          -- A tree with a value lacks nothing, so it may stand below the new root.
          have whole : session.tree.Complete := sound.growing.complete_of_evaluate defined
          exact .idle rfl ((Tree.Growing.bare op).graft whole) sound.stored

theorem Sound.setSlot {session : Session} (sound : session.Sound) (slot : Fin slotCount)
    (held : Option Tree) (complete : ∀ tree, held = some tree → tree.Complete) :
    Sound { session with memory := session.memory.set slot held slot.isLt } := by
  refine ⟨sound.growing, ?_, sound.grafted⟩
  intro asked tree found
  change Vector.get (session.memory.set slot held slot.isLt) asked = some tree at found
  rw [Memory.get_set] at found
  split at found
  · exact complete tree found
  · exact sound.stored asked tree found

theorem Sound.store {session : Session} (sound : session.Sound) (request : SlotRequest) :
    (session.store request).session.Sound := by
  unfold Session.store
  split
  · exact sound
  · rename_i slot named
    split
    · rename_i shallow
      have whole : session.tree.Complete := sound.growing.isComplete_iff.mp shallow
      apply sound.setSlot slot
      intro tree same
      cases same
      exact whole
    · exact sound

theorem Sound.clear {session : Session} (sound : session.Sound) (request : SlotRequest) :
    (session.clear request).session.Sound := by
  unfold Session.clear
  split
  · exact sound
  · rename_i slot named
    apply sound.setSlot slot
    intro tree impossible
    cases impossible

theorem fetch_answer {session : Session} {request : SlotRequest} {tree : Tree}
    (found : (session.fetch request).answer = some tree) :
    ∃ slot, request.slot? = some slot ∧ session.memory.get slot = some tree := by
  unfold fetch at found
  split at found
  · cases found
  · rename_i slot named
    split at found
    · cases found
    · rename_i stored held
      cases found
      exact ⟨slot, named, held⟩

theorem Sound.graftStored {session : Session} (sound : session.Sound) (request : SlotRequest) :
    (session.graftStored request).Sound := by
  unfold Session.graftStored
  split
  · exact sound
  · rename_i tree found
    obtain ⟨slot, _, held⟩ := fetch_answer found
    exact .idle rfl (sound.growing.graft (sound.stored slot tree held)) sound.stored

theorem Sound.act {session : Session} (sound : session.Sound) (action : Action) :
    (session.act action).Sound := by
  cases action with
  | type typed => exact sound.type typed
  | point => exact sound.typePoint
  | sign => exact sound.toggleSign
  | operator name => exact sound.applyOperator _
  | finish => exact sound.endNumber
  | discard => exact .idle rfl .blank sound.stored
  | store slot => exact sound.store slot
  | clear slot => exact sound.clear slot
  | fetch slot => exact sound.graftStored slot

theorem Sound.run {session : Session} (sound : session.Sound) (actions : List Action) :
    (session.run actions).Sound :=
  run_keeps (fun _ action kept => kept.act action) session sound actions

/-! ### Reachable sessions -/

theorem reachable_sound (registry : Registry) (inputLimit : Int) (verbose : Bool)
    (actions : List Action) : ((Session.start registry inputLimit verbose).run actions).Sound :=
  (Sound.start registry inputLimit verbose).run actions

theorem Sound.editableLeaf?_typing {session : Session} (sound : session.Sound)
    {characters : List Char} (typing : session.entry = some characters) :
    session.tree.editableLeaf? = some (.operand (Numeral.finite? characters)) := by
  obtain ⟨base, growing, placed⟩ := sound.grafted characters typing
  rw [placed, growing.editableLeaf?_graft rfl]
  rfl

/-- The leaf that the next key would edit holds the number being typed, without a value where the
characters are no number. Only a root that is an operator without children has no such leaf. -/
theorem entry_held_by_editableLeaf (registry : Registry) (inputLimit : Int) (verbose : Bool)
    (actions : List Action) :
    let session := (Session.start registry inputLimit verbose).run actions
    (∀ characters, session.entry = some characters →
      session.tree.editableLeaf? = some (.operand (Numeral.finite? characters))) ∧
    (session.tree.editableLeaf? = none ↔ ∃ op, session.tree = .bare op) := by
  intro session
  have sound : session.Sound := reachable_sound registry inputLimit verbose actions
  constructor
  · intro characters typing
    exact sound.editableLeaf?_typing typing
  · exact sound.growing.editableLeaf?_eq_none_iff

/-- Only the root of the live tree may lack children, and those it has come first. What is below the
root and what is stored is complete, so looking at the root alone tells whether the whole is. -/
theorem reachable_trees_complete_below_root (registry : Registry) (inputLimit : Int)
    (verbose : Bool) (actions : List Action) :
    let session := (Session.start registry inputLimit verbose).run actions
    session.tree.FilledFromLeft ∧
    (∀ path, path ≠ [] → (session.tree.subtree path).isPresent = true →
      (session.tree.subtree path).Complete) ∧
    (∀ slot tree, session.memory.get slot = some tree → tree.Complete) ∧
    (session.tree.isComplete = true ↔ session.tree.Complete) := by
  intro session
  have sound : session.Sound := reachable_sound registry inputLimit verbose actions
  refine ⟨sound.growing.filledFromLeft, ?_, sound.stored, sound.growing.isComplete_iff⟩
  intro path proper present
  exact sound.growing.subtree path proper present

end Session
end DeskCalculator
