import DeskCalculator.Proofs.NodeSession

/-! A session with nodes gives the trees that the session of values gives. While nobody writes to the
live tree but the session itself, every node stands once, and a change in place is the change of one
tree. -/

namespace DeskCalculator
namespace NodeSession

def Holds (session : NodeSession) (mark : Nat) : Prop :=
  (∃ tree ∈ session.taken, mark ∈ tree.marks) ∨
    ∃ slot tree, session.slots slot = some tree ∧ mark ∈ tree.marks

/-- No node of the live tree stands in it twice, or in another tree. -/
structure Single (session : NodeSession) : Prop where
  nodup : session.live.marks.Nodup
  live : ∀ mark ∈ session.live.marks, mark < session.next ∧ ¬ session.Holds mark
  held : ∀ mark, session.Holds mark → mark < session.next
  present : ∀ slot tree, session.slots slot = some tree → tree.isPresent = true

theorem Single.write {session : NodeSession} (single : session.Single) {target : Nat}
    (member : target ∈ session.live.marks) (cell : NodeTree.Cell) :
    session.write target cell =
      { session with live := session.live.overwrite target cell } := by
  have alone := (single.live target member).2
  have slots : (fun slot => (session.slots slot).map (NodeTree.overwrite target cell)) =
      session.slots := by
    funext slot
    cases held : session.slots slot with
    | none => rfl
    | some tree =>
        have missing : target ∉ tree.marks := fun inside => alone (.inr ⟨slot, tree, held, inside⟩)
        exact congrArg some (NodeTree.overwrite_of_not_mem missing)
  have taken : session.taken.map (NodeTree.overwrite target cell) = session.taken := by
    refine (List.map_congr_left fun tree among => ?_).trans (List.map_id _)
    exact NodeTree.overwrite_of_not_mem fun inside => alone (.inl ⟨tree, among, inside⟩)
  rw [NodeSession.write, slots, taken]

/-- Another live tree, of nodes that no other tree has. -/
theorem Single.relive {session : NodeSession} (single : session.Single) {live : NodeTree}
    {next : Nat} (entry : Option (List Char)) (nodup : live.marks.Nodup)
    (more : session.next ≤ next)
    (inside : ∀ mark ∈ live.marks, mark < next ∧ ¬ session.Holds mark) :
    Single { session with live := live, entry := entry, next := next } :=
  ⟨nodup, inside, fun mark held => Nat.lt_of_lt_of_le (single.held mark held) more, single.present⟩

theorem Single.next_not_held {session : NodeSession} (single : session.Single) {mark : Nat}
    (new : session.next ≤ mark) : ¬ session.Holds mark :=
  fun held => absurd (single.held mark held) (Nat.not_lt.mpr new)

structure Yields (session : NodeSession) (value : Session) : Prop where
  single : session.Single
  value : session.toSession = value

section Yields

variable {session : NodeSession}

theorem Single.yields (single : session.Single) : session.Yields session.toSession :=
  ⟨single, rfl⟩

theorem Single.edit (single : session.Single) (characters : List Char) :
    (session.edit characters).Yields (session.toSession.edit characters) := by
  unfold NodeSession.edit NodeSession.setValue Session.edit
  cases found : session.live.editable with
  | absent =>
      have kept := NodeTree.editLeaf_of_editable_absent found (Numeral.finite? characters)
      refine ⟨single.relive _ single.nodup (Nat.le_refl _) single.live, ?_⟩
      rw [show session.toSession.tree = session.live.toTree from rfl, kept]
      rfl
  | node mark content left right =>
      have leaf : content.isLeaf = true := NodeTree.isLeaf_of_editable found
      have member : mark ∈ session.live.marks := by
        apply NodeTree.mem_marks_of_editable
        rw [found]
        exact List.mem_cons_self
      obtain ⟨edited, marks⟩ :=
        NodeTree.toTree_overwrite_editable single.nodup found (Numeral.finite? characters)
      dsimp only
      rw [if_pos leaf, single.write member]
      constructor
      · refine single.relive _ ?_ (Nat.le_refl _) ?_
        · exact marks ▸ single.nodup
        · exact marks ▸ single.live
      · rw [toSession, edited]
        rfl

/-- The new trees have the nodes of the live tree and of the incoming one, which have none in common. -/
theorem Single.graft (single : session.Single) {incoming : NodeTree}
    (present : incoming.isPresent = true) (nodup : incoming.marks.Nodup)
    (new : ∀ mark ∈ incoming.marks,
      mark < session.next ∧ ¬ session.Holds mark ∧ mark ∉ session.live.marks) :
    (session.graft incoming).Yields
      { session.toSession with tree := session.live.toTree.graft incoming.toTree } := by
  have relive {live : NodeTree} (nodup : live.marks.Nodup)
      (inside : ∀ mark ∈ live.marks, mark ∈ session.live.marks ∨ mark ∈ incoming.marks) :
      Single { session with live := live } := by
    refine single.relive session.entry nodup (Nat.le_refl _) ?_
    intro mark member
    rcases inside mark member with old | fresh
    · exact single.live mark old
    · exact ⟨(new mark fresh).1, (new mark fresh).2.1⟩
  unfold NodeSession.graft
  cases live : session.live with
  | absent => exact ⟨relive nodup fun _ member => .inr member, rfl⟩
  | node mark content left right =>
      obtain ⟨⟨notLeft, notRight⟩, leftNodup, rightNodup, _⟩ :=
        NodeTree.nodup_marks_node.mp (live ▸ single.nodup)
      have among {other : Nat} (member : other = mark ∨ other ∈ left.marks ∨ other ∈ right.marks) :
          other ∈ session.live.marks := live ▸ NodeTree.mem_marks_node.mpr member
      have foreign {other : Nat} (member : other ∈ incoming.marks) :
          other ≠ mark ∧ other ∉ left.marks ∧ other ∉ right.marks := by
        have outside := (new other member).2.2
        rw [live, NodeTree.mem_marks_node, not_or, not_or] at outside
        exact outside
      have notIncoming : mark ∉ incoming.marks := fun member => (foreign member).1 rfl
      have written (cell : NodeTree.Cell) : session.write mark cell =
          { session with live := .node mark cell.content cell.left cell.right } := by
        rw [single.write (among (.inl rfl)), live, NodeTree.overwrite, if_pos rfl]
      rw [NodeTree.toTree, Tree.graft, NodeTree.isPresent_toTree, NodeTree.isPresent_toTree]
      dsimp only
      split
      · rw [written]
        refine ⟨relive (NodeTree.nodup_marks_node.mpr ⟨⟨notIncoming, notRight⟩, nodup, rightNodup,
          fun other member => (foreign member).2.2⟩) ?_, rfl⟩
        intro other member
        rcases NodeTree.mem_marks_node.mp member with same | inLeft | inRight
        · exact .inl (among (.inl same))
        · exact .inr inLeft
        · exact .inl (among (.inr (.inr inRight)))
      · split
        · rw [written]
          refine ⟨relive (NodeTree.nodup_marks_node.mpr ⟨⟨notLeft, notIncoming⟩, leftNodup, nodup,
            fun other inLeft member => (foreign member).2.1 inLeft⟩) ?_, rfl⟩
          intro other member
          rcases NodeTree.mem_marks_node.mp member with same | inLeft | inRight
          · exact .inl (among (.inl same))
          · exact .inl (among (.inr (.inl inLeft)))
          · exact .inr inRight
        · cases incoming with
          | absent => cases present
          | node root held first second =>
              obtain ⟨_, firstNodup, secondNodup, separate⟩ := NodeTree.nodup_marks_node.mp nodup
              rw [NodeTree.mem_marks_node, not_or, not_or] at notIncoming
              dsimp only
              rw [written]
              refine ⟨relive (NodeTree.nodup_marks_node.mpr ⟨notIncoming.2, firstNodup, secondNodup,
                separate⟩) ?_, rfl⟩
              intro other member
              rcases NodeTree.mem_marks_node.mp member with same | children
              · exact .inl (among (.inl same))
              · exact .inr (NodeTree.mem_marks_node.mpr (.inr children))

theorem Single.counted (single : session.Single) {next : Nat} (more : session.next ≤ next)
    (entry : Option (List Char)) : Single { session with next := next, entry := entry } :=
  single.relive entry single.nodup more fun mark member =>
    ⟨Nat.lt_of_lt_of_le (single.live mark member).1 more, (single.live mark member).2⟩

theorem Single.openOperand (single : session.Single) (value : Option Float) :
    (session.openOperand value).Yields (session.toSession.openOperand value) := by
  have counted := single.counted (Nat.le_succ session.next) session.entry
  refine counted.graft rfl ((List.pairwise_singleton _ _)) ?_
  intro mark member
  have new : mark = session.next := NodeTree.mem_marks_childless.mp member
  rw [new]
  refine ⟨Nat.lt_succ_self _, single.next_not_held (Nat.le_refl _), ?_⟩
  exact fun inside => Nat.lt_irrefl _ (single.live _ inside).1

theorem Yields.edit {value : Session} (yields : session.Yields value) (characters : List Char) :
    (session.edit characters).Yields (value.edit characters) := by
  rw [← yields.value]
  exact yields.single.edit characters

theorem Single.type (single : session.Single) (typed : List Char) :
    (session.type typed).Yields (session.toSession.type typed).1 := by
  unfold NodeSession.type Session.type
  rw [show session.toSession.entry = session.entry from rfl]
  cases session.entry with
  | none => exact (single.openOperand _).edit typed
  | some characters =>
      dsimp only
      split
      · exact single.yields
      · exact single.edit _

theorem Single.typePoint (single : session.Single) :
    session.typePoint.Yields session.toSession.typePoint.1 := by
  unfold NodeSession.typePoint Session.typePoint
  rw [show session.toSession.entry = session.entry from rfl]
  split
  · exact single.yields
  · exact single.type ['.']

theorem Single.toggleSign (single : session.Single) :
    session.toggleSign.Yields session.toSession.toggleSign := by
  unfold NodeSession.toggleSign
  cases typing : session.entry with
  | none =>
      rw [Session.toggleSign_idle typing]
      exact (single.openOperand none).edit ['-']
  | some characters =>
      rw [Session.toggleSign_typing typing]
      exact single.edit _

theorem Single.endNumber (single : session.Single) :
    session.endNumber.Yields session.toSession.endNumber :=
  ⟨single.counted (Nat.le_refl _) none, rfl⟩

theorem Single.discard (single : session.Single) :
    session.discard.Yields session.toSession.discard := by
  refine ⟨single.relive none ((List.pairwise_singleton _ _)) (Nat.le_succ _) ?_, rfl⟩
  intro mark member
  have new : mark = session.next := NodeTree.mem_marks_childless.mp member
  rw [new]
  exact ⟨Nat.lt_succ_self _, single.next_not_held (Nat.le_refl _)⟩

theorem Single.fillRoot (single : session.Single) {mark : Nat} {left right : NodeTree}
    (live : session.live = .node mark .blank left right) (op : Operator) :
    (session.endNumber.write mark ⟨.operator op, left, right⟩).Yields
      { session.toSession.endNumber with
        tree := .node (.operator op) left.toTree right.toTree } := by
  have member : mark ∈ session.live.marks := live ▸ List.mem_cons_self
  have written : session.endNumber.write mark ⟨.operator op, left, right⟩ =
      { session.endNumber with live := .node mark (.operator op) left right } := by
    rw [single.endNumber.single.write member, show session.endNumber.live = session.live from rfl,
      live, NodeTree.overwrite, if_pos rfl]
  have marks : (NodeTree.node mark (.operator op) left right).marks = session.live.marks := by
    rw [live]
    rfl
  rw [written]
  exact ⟨single.relive none (marks ▸ single.nodup) (Nat.le_refl _) (marks ▸ single.live), rfl⟩

theorem Single.wrap (single : session.Single) (op : Operator) :
    Yields { session.endNumber with
      live := .node session.next (.operator op) session.live .absent
      next := session.next + 1 } (session.toSession.wrapped op) := by
  refine ⟨single.relive none ?_ (Nat.le_succ _) ?_, rfl⟩
  · refine NodeTree.nodup_marks_node.mpr ⟨⟨?_, List.not_mem_nil⟩, single.nodup, List.nodup_nil,
      fun _ _ => List.not_mem_nil⟩
    exact fun old => Nat.lt_irrefl _ (single.live _ old).1
  · intro mark member
    rcases NodeTree.mem_marks_node.mp member with rfl | old | nowhere
    · exact ⟨Nat.lt_succ_self _, single.next_not_held (Nat.le_refl _)⟩
    · exact ⟨Nat.lt_succ_of_lt (single.live mark old).1, (single.live mark old).2⟩
    · cases nowhere

theorem Single.applyOperator (single : session.Single) (op? : Option Operator) :
    (session.applyOperator op?).Yields (session.toSession.applyOperator op?).1 := by
  have tree : session.toSession.tree = session.live.toTree := rfl
  unfold NodeSession.applyOperator
  split
  · exact single.endNumber
  · rename_i op live
    rw [live] at tree
    rw [Session.applyOperator_of_undefined (tree ▸ rfl) (tree ▸ rfl)]
    exact single.endNumber
  · rename_i op mark left right live
    rw [live] at tree
    rw [Session.applyOperator_of_blank tree]
    exact single.fillRoot live op
  · rename_i op mark content left right filled live
    split
    · rename_i undefined
      have inner : session.toSession.tree.isBlank = false := by
        rw [tree, live]
        cases content with
        | blank => exact absurd rfl filled
        | operand _ => rfl
        | operator _ => rfl
      rw [Session.applyOperator_of_undefined inner undefined]
      exact single.endNumber
    · rename_i value defined
      rw [Session.applyOperator_of_evaluate _ _ defined]
      exact single.wrap op

theorem get_toSession (session : NodeSession) (slot : Fin slotCount) :
    session.toSession.memory.get slot = (session.slots slot).map NodeTree.toTree := by
  change (Vector.ofFn fun slot => (session.slots slot).map NodeTree.toTree)[slot.val] = _
  rw [Vector.getElem_ofFn]

theorem toSession_setSlot (session : NodeSession) (slot : Fin slotCount) (held : Option NodeTree) :
    (session.setSlot slot held).toSession =
      { session.toSession with
        memory := session.toSession.memory.set slot (held.map NodeTree.toTree) slot.isLt } := by
  have memory : (session.setSlot slot held).toSession.memory =
      session.toSession.memory.set slot (held.map NodeTree.toTree) slot.isLt := by
    apply Vector.ext
    intro index inRange
    have asked := Memory.get_set session.toSession.memory slot ⟨index, inRange⟩
      (held.map NodeTree.toTree)
    rw [session.get_toSession] at asked
    refine ((session.setSlot slot held).get_toSession ⟨index, inRange⟩).trans (Eq.trans ?_ asked.symm)
    unfold setSlot
    dsimp only
    split <;> rfl
  exact congrArg (fun memory => { session.toSession with memory := memory }) memory

theorem Single.setSlot (single : session.Single) (slot : Fin slotCount) {held : Option NodeTree}
    (present : ∀ tree, held = some tree → tree.isPresent = true)
    (new : ∀ tree, held = some tree → ∀ mark ∈ tree.marks,
      mark < session.next ∧ mark ∉ session.live.marks) : (session.setSlot slot held).Single := by
  have inside (mark : Nat) (member : (session.setSlot slot held).Holds mark) :
      session.Holds mark ∨ (mark < session.next ∧ mark ∉ session.live.marks) := by
    rcases member with handled | ⟨asked, tree, found, member⟩
    · exact .inl (.inl handled)
    · unfold NodeSession.setSlot at found
      dsimp only at found
      split at found
      · exact .inr (new tree found mark member)
      · exact .inl (.inr ⟨asked, tree, found, member⟩)
  refine ⟨single.nodup, fun mark member => ⟨(single.live mark member).1, fun holds => ?_⟩, ?_, ?_⟩
  · rcases inside mark holds with old | new
    · exact (single.live mark member).2 old
    · exact new.2 member
  · intro mark holds
    rcases inside mark holds with old | new
    · exact single.held mark old
    · exact new.1
  · intro asked tree found
    unfold NodeSession.setSlot at found
    dsimp only at found
    split at found
    · exact present tree found
    · exact single.present asked tree found

theorem toSession_store (session : NodeSession) (request : SlotRequest) :
    (session.store request).toSession = (session.toSession.store request).session := by
  unfold NodeSession.store Session.store
  rw [show session.toSession.tree = session.live.toTree from rfl]
  cases request.slot? with
  | none => rfl
  | some slot =>
      have copy : (session.copied session.live).2.toTree = session.live.toTree :=
        NodeTree.toTree_copy _ _
      dsimp only
      split
      · rw [toSession_setSlot, Option.map_some, copy]
        rfl
      · rfl

theorem toSession_clear (session : NodeSession) (request : SlotRequest) :
    (session.clear request).toSession = (session.toSession.clear request).session := by
  unfold NodeSession.clear Session.clear
  cases request.slot? with
  | none => rfl
  | some slot => exact session.toSession_setSlot slot none

theorem Single.store (single : session.Single) (request : SlotRequest) :
    (session.store request).Yields (session.toSession.store request).session := by
  refine ⟨?_, session.toSession_store request⟩
  unfold NodeSession.store
  split
  · exact single
  · rename_i slot named
    split
    · rename_i complete
      have counted := single.counted (session.live.le_copy session.next) session.entry
      refine counted.setSlot slot ?_ ?_
      · intro tree same
        cases same
        rw [← NodeTree.isPresent_toTree, NodeTree.toTree_copy]
        exact Tree.isPresent_of_isComplete complete
      · intro tree same mark member
        cases same
        have bounds := NodeTree.bounds_of_mem_copy member
        refine ⟨bounds.2, fun old => ?_⟩
        exact absurd (single.live mark old).1 (Nat.not_lt.mpr bounds.1)
    · exact single

theorem Single.clear (single : session.Single) (request : SlotRequest) :
    (session.clear request).Yields (session.toSession.clear request).session := by
  refine ⟨?_, session.toSession_clear request⟩
  unfold NodeSession.clear
  split
  · exact single
  · rename_i slot named
    refine single.setSlot slot ?_ ?_
    · intro tree impossible
      cases impossible
    · intro tree impossible
      cases impossible

/-- The session of values finds what the nodes in the slot hold. -/
theorem fetch_toSession (session : NodeSession) (request : SlotRequest) :
    (session.toSession.fetch request).answer =
      (request.slot?.bind session.slots).map NodeTree.toTree := by
  unfold Session.fetch
  cases request.slot? with
  | none => rfl
  | some slot =>
      rw [Option.bind_some, ← session.get_toSession slot]
      dsimp only
      cases session.toSession.memory.get slot <;> rfl

theorem fetch_copies (session : NodeSession) (request : SlotRequest) :
    (session.fetch request).2.map NodeTree.toTree =
      (request.slot?.bind session.slots).map NodeTree.toTree := by
  rcases session.fetch_cases request with ⟨nothing, fetched⟩ | ⟨tree, found, fetched⟩
  · rw [fetched, nothing]
  · rw [fetched, found, Option.map_some, NodeTree.toTree_copy, Option.map_some]

theorem Single.graftStored (single : session.Single) (request : SlotRequest) :
    (session.graftStored request).Yields (session.toSession.graftStored request) := by
  unfold NodeSession.graftStored Session.graftStored
  rw [session.fetch_toSession request]
  rcases session.fetch_cases request with ⟨nothing, fetched⟩ | ⟨tree, found, fetched⟩
  · rw [fetched, nothing]
    exact single.yields
  · obtain ⟨slot, _, held⟩ := Option.bind_eq_some_iff.mp found
    have counted := single.counted (tree.le_copy session.next) none
    have present : (tree.copy session.next).1.isPresent = true := by
      rw [← NodeTree.isPresent_toTree, NodeTree.toTree_copy, NodeTree.isPresent_toTree]
      exact single.present slot tree held
    have grafted := counted.graft present (NodeTree.nodup_copy _ _) fun mark member => by
      have bounds := NodeTree.bounds_of_mem_copy member
      refine ⟨bounds.2, single.next_not_held bounds.1, fun old => ?_⟩
      exact absurd (single.live mark old).1 (Nat.not_lt.mpr bounds.1)
    rw [fetched, found, Option.map_some, ← NodeTree.toTree_copy session.next tree]
    exact grafted

theorem Single.take (single : session.Single) (request : SlotRequest) :
    (session.take request).Yields session.toSession := by
  unfold NodeSession.take
  rcases session.fetch_cases request with ⟨_, fetched⟩ | ⟨tree, _, fetched⟩
  · rw [fetched]
    exact single.yields
  · rw [fetched]
    have counted := single.counted (tree.le_copy session.next) session.entry
    have inside (mark : Nat)
        (holds : Holds { session with
          next := (tree.copy session.next).2
          taken := session.taken ++ [(tree.copy session.next).1] } mark) :
        session.Holds mark ∨ (session.next ≤ mark ∧ mark < (tree.copy session.next).2) := by
      rcases holds with ⟨one, among, member⟩ | inSlot
      · rcases List.mem_append.mp among with old | new
        · exact .inl (.inl ⟨one, old, member⟩)
        · cases List.mem_singleton.mp new
          exact .inr (NodeTree.bounds_of_mem_copy member)
      · exact .inl (.inr inSlot)
    refine ⟨⟨single.nodup, fun mark member => ⟨(counted.live mark member).1, fun holds => ?_⟩,
      fun mark holds => ?_, single.present⟩, rfl⟩
    · rcases inside mark holds with old | new
      · exact (single.live mark member).2 old
      · exact absurd (single.live mark member).1 (Nat.not_lt.mpr new.1)
    · rcases inside mark holds with old | new
      · exact counted.held mark old
      · exact new.2

theorem holds_takenAt {index mark : Nat} (member : mark ∈ (session.takenAt index).marks) :
    session.Holds mark := by
  rcases session.takenAt_cases index with nothing | among
  · rw [nothing] at member
    cases member
  · exact .inl ⟨_, among, member⟩

/-- A change to a tree that was taken reaches neither the live tree nor a slot. -/
theorem Single.editTaken (single : session.Single) (apart : session.Apart) (index : Nat)
    (path : Tree.Path) (value : Option Float) :
    (session.setValue value ((session.takenAt index).subtree path)).Yields session.toSession := by
  have slots : (session.setValue value ((session.takenAt index).subtree path)).slots =
      session.slots :=
    ((Grows.refl session).setValue apart value fun _ member =>
      reaches_takenAt (NodeTree.mem_marks_of_subtree member)).slots
  have holds (mark : Nat) (member : mark ∈ ((session.takenAt index).subtree path).marks) :
      session.Holds mark := holds_takenAt (NodeTree.mem_marks_of_subtree member)
  unfold NodeSession.setValue at slots ⊢
  cases found : (session.takenAt index).subtree path with
  | absent => exact single.yields
  | node mark content left right =>
      rw [found] at slots holds
      dsimp only at slots ⊢
      split at slots
      · rename_i leaf
        have outside : mark ∉ session.live.marks := fun member =>
          (single.live mark member).2 (holds mark List.mem_cons_self)
        have written : session.write mark ⟨.operand value, left, right⟩ =
            { session with
              taken := session.taken.map (NodeTree.overwrite mark ⟨.operand value, left, right⟩) } := by
          unfold NodeSession.write at slots ⊢
          dsimp only at slots
          rw [NodeTree.overwrite_of_not_mem outside, slots]
        have inside (other : Nat)
            (held : (session.write mark ⟨.operand value, left, right⟩).Holds other) :
            session.Holds other := by
          rw [written] at held
          rcases held with ⟨tree, among, member⟩ | inSlot
          · obtain ⟨old, present, rfl⟩ := List.mem_map.mp among
            rcases NodeTree.mem_marks_overwrite member with kept | child
            · exact .inl ⟨old, present, kept⟩
            · exact holds other (NodeTree.mem_marks_node.mpr (.inr child))
          · exact .inr inSlot
        rw [if_pos leaf]
        rw [written] at inside ⊢
        exact ⟨⟨single.nodup, fun other member => ⟨(single.live other member).1,
          fun held => (single.live other member).2 (inside other held)⟩,
          fun other held => single.held other (inside other held), single.present⟩, rfl⟩
      · rename_i inner
        rw [if_neg inner]
        exact single.yields

/-- What the session of values does for an action: its own actions, and nothing for the others. -/
theorem Single.act (single : session.Single) (apart : session.Apart) {action : Action}
    (spares : action.sparesLive = true) :
    (session.act action).Yields (session.toSession.run action.own?.toList) := by
  cases action with
  | own action =>
      cases action with
      | type typed => exact single.type typed
      | point => exact single.typePoint
      | sign => exact single.toggleSign
      | operator name => exact single.applyOperator _
      | finish => exact single.endNumber
      | discard => exact single.discard
      | store request => exact single.store request
      | clear request => exact single.clear request
      | fetch request => exact single.graftStored request
  | take request => exact single.take request
  | graftTaken index => cases spares
  | editTaken index path value => exact single.editTaken apart index path value
  | editLive path value => cases spares

end Yields

theorem Single.start (registry : Registry) (inputLimit : Int) (verbose : Bool) :
    (NodeSession.start registry inputLimit verbose).Single where
  nodup := List.pairwise_singleton _ _
  live := by
    intro mark member
    have root : mark = 0 := NodeTree.mem_marks_childless.mp member
    refine ⟨root ▸ Nat.zero_lt_one, ?_⟩
    rintro (⟨tree, among, _⟩ | ⟨slot, tree, held, _⟩)
    · cases among
    · cases held
  held := by
    rintro mark (⟨tree, among, _⟩ | ⟨slot, tree, held, _⟩)
    · cases among
    · cases held
  present := by
    intro slot tree held
    cases held

theorem toSession_start (registry : Registry) (inputLimit : Int) (verbose : Bool) :
    (NodeSession.start registry inputLimit verbose).toSession =
      Session.start registry inputLimit verbose := by
  have memory : (NodeSession.start registry inputLimit verbose).toSession.memory = .empty := by
    apply Vector.ext
    intro index inRange
    refine (Vector.getElem_ofFn inRange).trans ?_
    exact (Vector.getElem_replicate inRange).symm
  exact congrArg (fun memory => { Session.start registry inputLimit verbose with memory := memory })
    memory

theorem Single.run {session : NodeSession} (single : session.Single) (apart : session.Apart)
    {actions : List Action} (spares : ∀ action ∈ actions, action.sparesLive = true) :
    (session.run actions).Yields (session.toSession.run (actions.filterMap Action.own?)) := by
  induction actions generalizing session with
  | nil => exact single.yields
  | cons action rest inductionHypothesis =>
      obtain ⟨first, later⟩ := List.forall_mem_cons.mp spares
      have acted := single.act apart first
      have followed := inductionHypothesis acted.single (apart.act action) later
      rw [acted.value, ← Session.run_append] at followed
      have split : (action :: rest).filterMap Action.own? =
          action.own?.toList ++ rest.filterMap Action.own? := by
        rw [List.filterMap_cons]
        cases action.own? <;> rfl
      rw [split]
      exact followed

end NodeSession
end DeskCalculator
