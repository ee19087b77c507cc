import DeskCalculator.Proofs.NodeTree
import DeskCalculator.Proofs.SessionInvariant

/-! A session whose trees are made of nodes that are changed in place. The live tree and the trees that
were taken out of the memory bank may share nodes; the slots share none with them, because a tree is
copied on its way into a slot and on its way out. Apart from the sharing the session does what the
session of values does. -/

namespace DeskCalculator

/-- `taken` holds the trees that were taken out of slots and are still at hand; marks from `next` on
are not in use. -/
structure NodeSession where
  registry : Registry
  inputLimit : Int
  verbose : Bool
  live : NodeTree
  entry : Option (List Char)
  slots : Fin slotCount → Option NodeTree
  taken : List NodeTree
  next : Nat

namespace NodeSession

/-- What can be done to a session with nodes: its own actions; taking a tree out of a slot; grafting a
tree that was taken, maybe again; and giving a leaf of it, or of the live tree, a value. -/
inductive Action where
  | own (action : Session.Action)
  | take (slot : SlotRequest)
  | graftTaken (index : Nat)
  | editTaken (index : Nat) (path : Tree.Path) (value : Option Float)
  | editLive (path : Tree.Path) (value : Option Float)

def Action.own? : Action → Option Session.Action
  | own action => some action
  | _ => none

/-- Whether nobody but the session itself touches the live tree. -/
def Action.sparesLive : Action → Bool
  | own _ => true
  | take _ => true
  | graftTaken _ => false
  | editTaken _ _ _ => true
  | editLive _ _ => false

def start (registry : Registry) (inputLimit : Int) (verbose : Bool) : NodeSession :=
  ⟨registry, inputLimit, verbose, .node 0 .blank .absent .absent, none, fun _ => none, [], 1⟩

def toSession (session : NodeSession) : Session :=
  { registry := session.registry
    inputLimit := session.inputLimit
    verbose := session.verbose
    tree := session.live.toTree
    entry := session.entry
    memory := Vector.ofFn fun slot => (session.slots slot).map NodeTree.toTree }

/-! ### Changes in place -/

/-- A node that is written changes in all trees. -/
def write (session : NodeSession) (target : Nat) (cell : NodeTree.Cell) : NodeSession :=
  { session with
    live := session.live.overwrite target cell
    slots := fun slot => (session.slots slot).map (NodeTree.overwrite target cell)
    taken := session.taken.map (NodeTree.overwrite target cell) }

def setValue (session : NodeSession) (value : Option Float) : NodeTree → NodeSession
  | .absent => session
  | .node mark content left right =>
    if content.isLeaf then session.write mark ⟨.operand value, left, right⟩ else session

/-- Puts a tree into the first free place of the live root, or else gives the root what the root of the
tree holds. -/
def graft (session : NodeSession) (incoming : NodeTree) : NodeSession :=
  match session.live with
  | .absent => { session with live := incoming }
  | .node mark content left right =>
    if 1 ≤ content.arity ∧ ¬ left.isPresent then session.write mark ⟨content, incoming, right⟩
    else if 2 ≤ content.arity ∧ ¬ right.isPresent then session.write mark ⟨content, left, incoming⟩
    else
      match incoming with
      | .absent => session
      | .node _ held first second => session.write mark ⟨held, first, second⟩

def copied (session : NodeSession) (tree : NodeTree) : NodeSession × NodeTree :=
  ({ session with next := (tree.copy session.next).2 }, (tree.copy session.next).1)

/-! ### The actions -/

def openOperand (session : NodeSession) (value : Option Float) : NodeSession :=
  { session with next := session.next + 1 }.graft
    (.node session.next (.operand value) .absent .absent)

def edit (session : NodeSession) (characters : List Char) : NodeSession :=
  { session.setValue (Numeral.finite? characters) session.live.editable with
    entry := some characters }

def type (session : NodeSession) (typed : List Char) : NodeSession :=
  match session.entry with
  | none => (session.openOperand (Numeral.finite? typed)).edit typed
  | some characters =>
    if session.toSession.isFull characters then session else session.edit (characters ++ typed)

def typePoint (session : NodeSession) : NodeSession :=
  if (session.entry.getD []).contains '.' then session else session.type ['.']

def toggleSign (session : NodeSession) : NodeSession :=
  match session.entry with
  | none => (session.openOperand none).edit ['-']
  | some characters => session.edit (Session.toggled characters)

def endNumber (session : NodeSession) : NodeSession :=
  { session with entry := none }

/-- The new root of a tree with a value is a new node above the old root. -/
def applyOperator (session : NodeSession) (op? : Option Operator) : NodeSession :=
  match op?, session.live with
  | none, _ => session.endNumber
  | some _, .absent => session.endNumber
  | some op, .node mark .blank left right =>
    session.endNumber.write mark ⟨.operator op, left, right⟩
  | some op, .node _ _ _ _ =>
    match session.live.toTree.evaluate with
    | none => session.endNumber
    | some _ =>
      { session.endNumber with
        live := .node session.next (.operator op) session.live .absent
        next := session.next + 1 }

def discard (session : NodeSession) : NodeSession :=
  { session with
    live := .node session.next .blank .absent .absent
    entry := none
    next := session.next + 1 }

def setSlot (session : NodeSession) (slot : Fin slotCount) (held : Option NodeTree) : NodeSession :=
  { session with slots := fun asked => if slot = asked then held else session.slots asked }

def store (session : NodeSession) (request : SlotRequest) : NodeSession :=
  match request.slot? with
  | none => session
  | some slot =>
    if session.live.toTree.isComplete then
      let (counted, copy) := session.copied session.live
      counted.setSlot slot (some copy)
    else session

def clear (session : NodeSession) (request : SlotRequest) : NodeSession :=
  match request.slot? with
  | none => session
  | some slot => session.setSlot slot none

def fetch (session : NodeSession) (request : SlotRequest) : NodeSession × Option NodeTree :=
  match request.slot?.bind session.slots with
  | none => (session, none)
  | some tree =>
    let (counted, copy) := session.copied tree
    (counted, some copy)

def graftStored (session : NodeSession) (request : SlotRequest) : NodeSession :=
  match session.fetch request with
  | (counted, none) => counted
  | (counted, some copy) => counted.endNumber.graft copy

def take (session : NodeSession) (request : SlotRequest) : NodeSession :=
  match session.fetch request with
  | (counted, none) => counted
  | (counted, some copy) => { counted with taken := counted.taken ++ [copy] }

def takenAt (session : NodeSession) (index : Nat) : NodeTree :=
  session.taken.getD index .absent

def act (session : NodeSession) : Action → NodeSession
  | .own (.type typed) => session.type typed
  | .own .point => session.typePoint
  | .own .sign => session.toggleSign
  | .own (.operator name) => session.applyOperator (session.registry.lookup? name)
  | .own .finish => session.endNumber
  | .own .discard => session.discard
  | .own (.store slot) => session.store slot
  | .own (.clear slot) => session.clear slot
  | .own (.fetch slot) => session.graftStored slot
  | .take slot => session.take slot
  | .graftTaken index => session.endNumber.graft (session.takenAt index)
  | .editTaken index path value => session.setValue value ((session.takenAt index).subtree path)
  | .editLive path value => session.setValue value (session.live.subtree path)

def run (session : NodeSession) (actions : List Action) : NodeSession :=
  actions.foldl act session

/-! ### What the actions can reach -/

def Reaches (session : NodeSession) (mark : Nat) : Prop :=
  mark ∈ session.live.marks ∨ ∃ tree ∈ session.taken, mark ∈ tree.marks

/-- The slots have nodes of their own. -/
structure Apart (session : NodeSession) : Prop where
  reached : ∀ mark, session.Reaches mark → mark < session.next
  stored : ∀ slot tree mark, session.slots slot = some tree → mark ∈ tree.marks →
    mark < session.next
  apart : ∀ slot tree mark, session.slots slot = some tree → mark ∈ tree.marks →
    ¬ session.Reaches mark

def Within (first : NodeSession) (next mark : Nat) : Prop :=
  first.Reaches mark ∨ (first.next ≤ mark ∧ mark < next)

/-- What comes of a session without a change of its slots. -/
structure Grows (first later : NodeSession) : Prop where
  slots : later.slots = first.slots
  next : first.next ≤ later.next
  reached : ∀ mark, later.Reaches mark → first.Within later.next mark

theorem Within.mono {first : NodeSession} {next later mark : Nat} (within : first.Within next mark)
    (more : next ≤ later) : first.Within later mark :=
  within.imp_right fun new => ⟨new.1, Nat.lt_of_lt_of_le new.2 more⟩

theorem Grows.refl (session : NodeSession) : session.Grows session :=
  ⟨rfl, Nat.le_refl _, fun _ reached => .inl reached⟩

section Grows

variable {first session : NodeSession}

theorem Apart.not_within (apart : first.Apart) {slot : Fin slotCount} {tree : NodeTree}
    {next mark : Nat} (held : first.slots slot = some tree) (within : first.Within next mark) :
    mark ∉ tree.marks := by
  intro member
  rcases within with reached | new
  · exact apart.apart slot tree mark held member reached
  · exact absurd (apart.stored slot tree mark held member) (Nat.not_lt.mpr new.1)

theorem Apart.of_grows (apart : first.Apart) (grows : first.Grows session) : session.Apart where
  reached := by
    intro mark reached
    rcases grows.reached mark reached with old | new
    · exact Nat.lt_of_lt_of_le (apart.reached mark old) grows.next
    · exact new.2
  stored := by
    intro slot tree mark held member
    rw [grows.slots] at held
    exact Nat.lt_of_lt_of_le (apart.stored slot tree mark held member) grows.next
  apart := by
    intro slot tree mark held member reached
    rw [grows.slots] at held
    exact apart.not_within held (grows.reached mark reached) member

/-- A write to a node in reach leaves the slots as they are. -/
theorem Grows.write (grows : first.Grows session) (apart : first.Apart) {target : Nat}
    {cell : NodeTree.Cell} (node : first.Within session.next target)
    (left : ∀ mark ∈ cell.left.marks, first.Within session.next mark)
    (right : ∀ mark ∈ cell.right.marks, first.Within session.next mark) :
    first.Grows (session.write target cell) where
  slots := by
    rw [← grows.slots]
    funext slot
    change (session.slots slot).map (NodeTree.overwrite target cell) = session.slots slot
    cases held : session.slots slot with
    | none => rfl
    | some tree =>
        have missing : target ∉ tree.marks := apart.not_within (grows.slots ▸ held) node
        exact congrArg some (NodeTree.overwrite_of_not_mem missing)
  next := grows.next
  reached := by
    intro mark reached
    have inside (tree : NodeTree) (old : ∀ mark ∈ tree.marks, session.Reaches mark)
        (member : mark ∈ (tree.overwrite target cell).marks) :
        first.Within session.next mark := by
      rcases NodeTree.mem_marks_overwrite member with kept | inLeft | inRight
      · exact grows.reached mark (old mark kept)
      · exact left mark inLeft
      · exact right mark inRight
    rcases reached with member | ⟨tree, among, member⟩
    · exact inside session.live (fun _ kept => .inl kept) member
    · obtain ⟨old, present, rfl⟩ := List.mem_map.mp among
      exact inside old (fun _ kept => .inr ⟨old, present, kept⟩) member

theorem Grows.setValue (grows : first.Grows session) (apart : first.Apart) (value : Option Float)
    {tree : NodeTree} (inside : ∀ mark ∈ tree.marks, session.Reaches mark) :
    first.Grows (session.setValue value tree) := by
  unfold NodeSession.setValue
  cases tree with
  | absent => exact grows
  | node mark content left right =>
      have within (other : Nat) (member : other ∈ (NodeTree.node mark content left right).marks) :
          first.Within session.next other := grows.reached other (inside other member)
      dsimp only
      split
      · refine grows.write apart (within mark List.mem_cons_self) ?_ ?_
        · exact fun other member => within other (NodeTree.mem_marks_left member)
        · exact fun other member => within other (NodeTree.mem_marks_right member)
      · exact grows

theorem Grows.graft (grows : first.Grows session) (apart : first.Apart) {incoming : NodeTree}
    (inside : ∀ mark ∈ incoming.marks, first.Within session.next mark) :
    first.Grows (session.graft incoming) := by
  unfold NodeSession.graft
  cases live : session.live with
  | absent =>
      refine ⟨grows.slots, grows.next, ?_⟩
      rintro mark (member | handled)
      · exact inside mark member
      · exact grows.reached mark (.inr handled)
  | node mark content left right =>
      have within (other : Nat) (member : other ∈ (NodeTree.node mark content left right).marks) :
          first.Within session.next other := grows.reached other (.inl (live ▸ member))
      have root := within mark List.mem_cons_self
      dsimp only
      split
      · refine grows.write apart root inside ?_
        exact fun other member => within other (NodeTree.mem_marks_right member)
      · split
        · refine grows.write apart root ?_ inside
          exact fun other member => within other (NodeTree.mem_marks_left member)
        · cases incoming with
          | absent => exact grows
          | node other held left right =>
              refine grows.write apart root ?_ ?_
              · exact fun one member => inside one (NodeTree.mem_marks_left member)
              · exact fun one member => inside one (NodeTree.mem_marks_right member)

/-- Neither the number being typed nor the count of nodes is in any tree. -/
theorem Grows.counted (grows : first.Grows session) {next : Nat} (more : session.next ≤ next)
    (entry : Option (List Char)) : first.Grows { session with next := next, entry := entry } :=
  ⟨grows.slots, Nat.le_trans grows.next more,
    fun mark reached => (grows.reached mark reached).mono more⟩

theorem Grows.endNumber (grows : first.Grows session) : first.Grows session.endNumber :=
  grows.counted (Nat.le_refl _) none

theorem Grows.openOperand (grows : first.Grows session) (apart : first.Apart)
    (value : Option Float) : first.Grows (session.openOperand value) := by
  refine (grows.counted (Nat.le_succ _) session.entry).graft apart ?_
  intro mark member
  have new : mark = session.next := NodeTree.mem_marks_childless.mp member
  exact .inr ⟨new ▸ grows.next, new ▸ Nat.lt_succ_self _⟩

theorem Grows.edit (grows : first.Grows session) (apart : first.Apart) (characters : List Char) :
    first.Grows (session.edit characters) := by
  have inside : ∀ mark ∈ session.live.editable.marks, session.Reaches mark :=
    fun _ member => .inl (NodeTree.mem_marks_of_editable member)
  have written := grows.setValue apart (Numeral.finite? characters) inside
  exact written.counted (Nat.le_refl _) (some characters)

theorem Grows.type (grows : first.Grows session) (apart : first.Apart) (typed : List Char) :
    first.Grows (session.type typed) := by
  unfold NodeSession.type
  split
  · exact (grows.openOperand apart _).edit apart typed
  · split
    · exact grows
    · exact grows.edit apart _

theorem Grows.typePoint (grows : first.Grows session) (apart : first.Apart) :
    first.Grows session.typePoint := by
  unfold NodeSession.typePoint
  split
  · exact grows
  · exact grows.type apart _

theorem Grows.toggleSign (grows : first.Grows session) (apart : first.Apart) :
    first.Grows session.toggleSign := by
  unfold NodeSession.toggleSign
  split
  · exact (grows.openOperand apart none).edit apart _
  · exact grows.edit apart _

/-- A new root above some or none of the nodes of the live tree. -/
theorem Grows.root (grows : first.Grows session) (content : Content) {left : NodeTree}
    (old : ∀ mark ∈ left.marks, mark ∈ session.live.marks) :
    first.Grows { session with
      live := .node session.next content left .absent
      next := session.next + 1 } := by
  refine ⟨grows.slots, Nat.le_succ_of_le grows.next, ?_⟩
  have within (mark : Nat) (reached : session.Reaches mark) :
      first.Within (session.next + 1) mark := (grows.reached mark reached).mono (Nat.le_succ _)
  rintro mark (member | handled)
  · rcases NodeTree.mem_marks_node.mp member with rfl | inLeft | nowhere
    · exact .inr ⟨grows.next, Nat.lt_succ_self _⟩
    · exact within mark (.inl (old mark inLeft))
    · cases nowhere
  · exact within mark (.inr handled)

theorem Grows.applyOperator (grows : first.Grows session) (apart : first.Apart)
    (op? : Option Operator) : first.Grows (session.applyOperator op?) := by
  unfold NodeSession.applyOperator
  split
  · exact grows.endNumber
  · exact grows.endNumber
  · rename_i op mark left right live
    have within (other : Nat) (member : other ∈ (NodeTree.node mark .blank left right).marks) :
        first.Within session.next other := grows.reached other (.inl (live ▸ member))
    refine grows.endNumber.write apart (within mark List.mem_cons_self) ?_ ?_
    · exact fun other member => within other (NodeTree.mem_marks_left member)
    · exact fun other member => within other (NodeTree.mem_marks_right member)
  · split
    · exact grows.endNumber
    · exact grows.endNumber.root _ fun _ member => member

theorem Grows.discard (grows : first.Grows session) : first.Grows session.discard :=
  grows.endNumber.root _ fun _ member => by cases member

theorem fetch_cases (session : NodeSession) (request : SlotRequest) :
    (request.slot?.bind session.slots = none ∧ session.fetch request = (session, none)) ∨
    ∃ tree, request.slot?.bind session.slots = some tree ∧
      session.fetch request = ({ session with next := (tree.copy session.next).2 },
        some (tree.copy session.next).1) := by
  unfold fetch
  cases found : request.slot?.bind session.slots with
  | none => exact .inl ⟨rfl, rfl⟩
  | some tree => exact .inr ⟨tree, rfl, rfl⟩

theorem Grows.copy (grows : first.Grows session) (tree : NodeTree) :
    first.Grows { session with next := (tree.copy session.next).2 } ∧
      ∀ mark ∈ (tree.copy session.next).1.marks, first.Within (tree.copy session.next).2 mark := by
  refine ⟨grows.counted (tree.le_copy _) session.entry, ?_⟩
  intro mark member
  have bounds := NodeTree.bounds_of_mem_copy member
  exact .inr ⟨Nat.le_trans grows.next bounds.1, bounds.2⟩

theorem Grows.graftStored (grows : first.Grows session) (apart : first.Apart)
    (request : SlotRequest) : first.Grows (session.graftStored request) := by
  unfold NodeSession.graftStored
  rcases session.fetch_cases request with ⟨_, fetched⟩ | ⟨tree, _, fetched⟩
  · rw [fetched]
    exact grows
  · rw [fetched]
    obtain ⟨counted, inside⟩ := grows.copy tree
    exact counted.endNumber.graft apart inside

theorem Grows.take (grows : first.Grows session) (request : SlotRequest) :
    first.Grows (session.take request) := by
  unfold NodeSession.take
  rcases session.fetch_cases request with ⟨_, fetched⟩ | ⟨tree, _, fetched⟩
  · rw [fetched]
    exact grows
  · rw [fetched]
    obtain ⟨counted, inside⟩ := grows.copy tree
    refine ⟨counted.slots, counted.next, ?_⟩
    rintro mark (member | ⟨one, among, member⟩)
    · exact counted.reached mark (.inl member)
    · rcases List.mem_append.mp among with old | new
      · exact counted.reached mark (.inr ⟨one, old, member⟩)
      · cases List.mem_singleton.mp new
        exact inside mark member

end Grows

theorem takenAt_cases (session : NodeSession) (index : Nat) :
    session.takenAt index = .absent ∨ session.takenAt index ∈ session.taken := by
  unfold takenAt
  rw [List.getD_eq_getElem?_getD]
  cases found : session.taken[index]? with
  | none => exact .inl rfl
  | some tree => exact .inr (List.mem_of_getElem? found)

theorem reaches_takenAt {session : NodeSession} {index mark : Nat}
    (member : mark ∈ (session.takenAt index).marks) : session.Reaches mark := by
  rcases session.takenAt_cases index with nothing | among
  · rw [nothing] at member
    cases member
  · exact .inr ⟨_, among, member⟩

/-- All actions but the writing of slots leave the slots as they are. -/
theorem Apart.grows_act {session : NodeSession} (apart : session.Apart) (action : Action)
    (notStore : ∀ request, action ≠ .own (.store request))
    (notClear : ∀ request, action ≠ .own (.clear request)) :
    session.Grows (session.act action) := by
  have same := Grows.refl session
  cases action with
  | own action =>
      cases action with
      | type typed => exact same.type apart typed
      | point => exact same.typePoint apart
      | sign => exact same.toggleSign apart
      | operator name => exact same.applyOperator apart _
      | finish => exact same.endNumber
      | discard => exact same.discard
      | store request => exact absurd rfl (notStore request)
      | clear request => exact absurd rfl (notClear request)
      | fetch request => exact same.graftStored apart request
  | take request => exact same.take request
  | graftTaken index =>
      exact same.endNumber.graft apart fun _ member => .inl (reaches_takenAt member)
  | editTaken index path value =>
      refine same.setValue apart value fun _ member => ?_
      exact reaches_takenAt (NodeTree.mem_marks_of_subtree member)
  | editLive path value =>
      exact same.setValue apart value fun _ member => .inl (NodeTree.mem_marks_of_subtree member)

theorem Apart.setSlot {session : NodeSession} (apart : session.Apart) (slot : Fin slotCount)
    {held : Option NodeTree}
    (new : ∀ tree, held = some tree → ∀ mark ∈ tree.marks,
      mark < session.next ∧ ¬ session.Reaches mark) : (session.setSlot slot held).Apart where
  reached := apart.reached
  stored := by
    intro asked tree mark found member
    unfold NodeSession.setSlot at found
    dsimp only at found
    split at found
    · exact (new tree found mark member).1
    · exact apart.stored asked tree mark found member
  apart := by
    intro asked tree mark found member
    unfold NodeSession.setSlot at found
    dsimp only at found
    split at found
    · exact (new tree found mark member).2
    · exact apart.apart asked tree mark found member

theorem Apart.store {session : NodeSession} (apart : session.Apart) (request : SlotRequest) :
    (session.store request).Apart := by
  unfold NodeSession.store
  split
  · exact apart
  · split
    · have counted := apart.of_grows ((Grows.refl session).copy session.live).1
      apply counted.setSlot
      intro tree same mark member
      cases same
      have bounds := NodeTree.bounds_of_mem_copy member
      exact ⟨bounds.2, fun reached => absurd (apart.reached mark reached) (Nat.not_lt.mpr bounds.1)⟩
    · exact apart

theorem Apart.clear {session : NodeSession} (apart : session.Apart) (request : SlotRequest) :
    (session.clear request).Apart := by
  unfold NodeSession.clear
  split
  · exact apart
  · apply apart.setSlot
    intro tree impossible
    cases impossible

theorem Apart.act {session : NodeSession} (apart : session.Apart) (action : Action) :
    (session.act action).Apart := by
  by_cases stores : ∃ request, action = .own (.store request)
  · obtain ⟨request, rfl⟩ := stores
    exact apart.store request
  · by_cases clears : ∃ request, action = .own (.clear request)
    · obtain ⟨request, rfl⟩ := clears
      exact apart.clear request
    · refine apart.of_grows (apart.grows_act action ?_ ?_)
      · exact fun request same => stores ⟨request, same⟩
      · exact fun request same => clears ⟨request, same⟩

theorem Apart.run {session : NodeSession} (apart : session.Apart) (actions : List Action) :
    (session.run actions).Apart := by
  induction actions generalizing session with
  | nil => exact apart
  | cons action rest inductionHypothesis => exact inductionHypothesis (apart.act action)

theorem Apart.start (registry : Registry) (inputLimit : Int) (verbose : Bool) :
    (NodeSession.start registry inputLimit verbose).Apart where
  reached := by
    rintro mark (member | ⟨tree, among, _⟩)
    · have root : mark = 0 := NodeTree.mem_marks_childless.mp member
      exact root ▸ Nat.zero_lt_one
    · cases among
  stored := by
    intro slot tree mark held
    cases held
  apart := by
    intro slot tree mark held
    cases held

end NodeSession
end DeskCalculator
