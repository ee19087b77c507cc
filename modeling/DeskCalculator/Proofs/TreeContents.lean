import DeskCalculator.Proofs.SessionInvariant

/-! What the nodes of a session's trees hold. Keys bring finite numbers, numbers that are not complete
yet, and the operators of the session's registry; nothing else gets into a tree or into a slot. -/

namespace DeskCalculator

/-- An operand is finite or lacks its value, and an operator is one of the registry. -/
def Content.Admitted (registry : Registry) : Content → Prop
  | .blank => True
  | .operand value => ∀ number, value = some number → number.isFinite = true
  | .operator op => op ∈ registry.operators

namespace Tree

def Admitted (registry : Registry) : Tree → Prop
  | absent => True
  | node content left right =>
    content.Admitted registry ∧ left.Admitted registry ∧ right.Admitted registry

variable {registry : Registry}

theorem Admitted.operand {value : Option Float}
    (finite : ∀ number, value = some number → number.isFinite = true) :
    (Tree.operand value).Admitted registry :=
  ⟨finite, trivial, trivial⟩

theorem Admitted.bare {op : Operator} (known : op ∈ registry.operators) :
    (Tree.bare op).Admitted registry :=
  ⟨known, trivial, trivial⟩

theorem Admitted.graft {tree incoming : Tree} (admitted : tree.Admitted registry)
    (new : incoming.Admitted registry) : (tree.graft incoming).Admitted registry := by
  cases tree with
  | absent => exact new
  | node content left right =>
      obtain ⟨root, leftAdmitted, rightAdmitted⟩ := admitted
      unfold Tree.graft
      dsimp only
      split
      · exact ⟨root, new, rightAdmitted⟩
      · split
        · exact ⟨root, leftAdmitted, new⟩
        · exact new

theorem Admitted.editLeaf {value : Option Float}
    (finite : ∀ number, value = some number → number.isFinite = true) {tree : Tree}
    (admitted : tree.Admitted registry) : (tree.editLeaf value).Admitted registry := by
  induction tree with
  | absent => trivial
  | node content left right leftHypothesis rightHypothesis =>
      obtain ⟨root, leftAdmitted, rightAdmitted⟩ := admitted
      unfold Tree.editLeaf
      split
      · exact ⟨finite, leftAdmitted, rightAdmitted⟩
      · split
        · exact ⟨root, leftAdmitted, rightHypothesis rightAdmitted⟩
        · exact ⟨root, leftHypothesis leftAdmitted, rightAdmitted⟩

theorem Admitted.graftOperator {op : Operator} (known : op ∈ registry.operators)
    {tree grown : Tree} (admitted : tree.Admitted registry)
    (grafted : tree.graftOperator? op = some grown) : grown.Admitted registry := by
  unfold Tree.graftOperator? at grafted
  split at grafted
  · cases grafted
    exact ⟨known, admitted.2⟩
  · cases grafted

end Tree

theorem Numeral.isFinite_of_finite? {text : List Char} (number : Float)
    (read : Numeral.finite? text = some number) : number.isFinite = true :=
  (Option.filter_eq_some_iff.mp read).2

theorem Registry.mem_of_lookup? {registry : Registry} {name : String} {op : Operator}
    (found : registry.lookup? name = some op) : op ∈ registry.operators := by
  obtain ⟨place, _, held⟩ := Option.bind_eq_some_iff.mp found
  exact List.mem_of_getElem? held

namespace Session

structure Admitted (registry : Registry) (session : Session) : Prop where
  knows : session.registry = registry
  live : session.tree.Admitted registry
  stored : ∀ slot tree, session.memory.get slot = some tree → tree.Admitted registry

variable {registry : Registry}

theorem Admitted.start (registry : Registry) (inputLimit : Int) (verbose : Bool) :
    (Session.start registry inputLimit verbose).Admitted registry := by
  refine ⟨rfl, ?_, ?_⟩
  · exact ⟨trivial, trivial, trivial⟩
  · intro slot tree found
    rw [Session.start, Memory.get_empty] at found
    cases found

theorem Admitted.openOperand {session : Session} (admitted : session.Admitted registry)
    {value : Option Float} (finite : ∀ number, value = some number → number.isFinite = true) :
    (session.openOperand value).Admitted registry :=
  ⟨admitted.knows, admitted.live.graft (.operand finite), admitted.stored⟩

theorem Admitted.edit {session : Session} (admitted : session.Admitted registry)
    (characters : List Char) : (session.edit characters).Admitted registry :=
  ⟨admitted.knows, admitted.live.editLeaf Numeral.isFinite_of_finite?, admitted.stored⟩

theorem Admitted.type {session : Session} (admitted : session.Admitted registry)
    (typed : List Char) : (session.type typed).1.Admitted registry := by
  unfold Session.type
  split
  · exact (admitted.openOperand Numeral.isFinite_of_finite?).edit typed
  · split
    · exact admitted
    · exact admitted.edit _

theorem Admitted.typePoint {session : Session} (admitted : session.Admitted registry) :
    session.typePoint.1.Admitted registry := by
  unfold Session.typePoint
  split
  · exact admitted
  · exact admitted.type _

theorem Admitted.toggleSign {session : Session} (admitted : session.Admitted registry) :
    session.toggleSign.Admitted registry := by
  have noValue : ∀ number : Float, none = some number → number.isFinite = true := by
    intro number impossible
    cases impossible
  unfold Session.toggleSign
  split
  · exact (admitted.openOperand noValue).edit _
  · exact admitted.edit _
  · exact admitted.edit _

theorem Admitted.applyOperator {session : Session} (admitted : session.Admitted registry)
    {op? : Option Operator} (known : ∀ op, op? = some op → op ∈ registry.operators) :
    (session.applyOperator op?).1.Admitted registry := by
  unfold Session.applyOperator
  cases op? with
  | none => exact ⟨admitted.knows, admitted.live, admitted.stored⟩
  | some op =>
      have listed := known op rfl
      dsimp only
      split
      · rename_i grown grafted
        exact ⟨admitted.knows, .graftOperator listed admitted.live grafted, admitted.stored⟩
      · split
        · exact ⟨admitted.knows, admitted.live, admitted.stored⟩
        · exact ⟨admitted.knows, (Tree.Admitted.bare listed).graft admitted.live, admitted.stored⟩

theorem Admitted.setSlot {session : Session} (admitted : session.Admitted registry)
    (slot : Fin slotCount) (held : Option Tree)
    (new : ∀ tree, held = some tree → tree.Admitted registry) :
    Admitted registry { session with memory := session.memory.set slot held slot.isLt } := by
  refine ⟨admitted.knows, admitted.live, ?_⟩
  intro asked tree found
  change Vector.get (session.memory.set slot held slot.isLt) asked = some tree at found
  rw [Memory.get_set] at found
  split at found
  · exact new tree found
  · exact admitted.stored asked tree found

theorem Admitted.store {session : Session} (admitted : session.Admitted registry)
    (request : SlotRequest) : (session.store request).session.Admitted registry := by
  unfold Session.store
  split
  · exact admitted
  · split
    · apply admitted.setSlot
      intro tree same
      cases same
      exact admitted.live
    · exact admitted

theorem Admitted.clear {session : Session} (admitted : session.Admitted registry)
    (request : SlotRequest) : (session.clear request).session.Admitted registry := by
  unfold Session.clear
  split
  · exact admitted
  · apply admitted.setSlot
    intro tree impossible
    cases impossible

theorem Admitted.graftStored {session : Session} (admitted : session.Admitted registry)
    (request : SlotRequest) : (session.graftStored request).Admitted registry := by
  unfold Session.graftStored
  split
  · exact admitted
  · rename_i tree found
    obtain ⟨slot, _, held⟩ := fetch_answer found
    exact ⟨admitted.knows, admitted.live.graft (admitted.stored slot tree held), admitted.stored⟩

theorem Admitted.act {session : Session} (admitted : session.Admitted registry) (action : Action) :
    (session.act action).Admitted registry := by
  cases action with
  | type typed => exact admitted.type typed
  | point => exact admitted.typePoint
  | sign => exact admitted.toggleSign
  | operator name =>
      apply admitted.applyOperator
      intro op found
      rw [← admitted.knows]
      exact Registry.mem_of_lookup? found
  | finish => exact ⟨admitted.knows, admitted.live, admitted.stored⟩
  | discard => exact ⟨admitted.knows, ⟨trivial, trivial, trivial⟩, admitted.stored⟩
  | store slot => exact admitted.store slot
  | clear slot => exact admitted.clear slot
  | fetch slot => exact admitted.graftStored slot

theorem Admitted.run {session : Session} (admitted : session.Admitted registry)
    (actions : List Action) : (session.run actions).Admitted registry :=
  run_keeps (fun _ action kept => kept.act action) session admitted actions

theorem reachable_admitted (registry : Registry) (inputLimit : Int) (verbose : Bool)
    (actions : List Action) :
    ((Session.start registry inputLimit verbose).run actions).Admitted registry :=
  (Admitted.start registry inputLimit verbose).run actions

end Session
end DeskCalculator
