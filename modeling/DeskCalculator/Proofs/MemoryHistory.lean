import DeskCalculator.Proofs.NodeValues

/-! The memory bank is the history of what was written to it. A slot holds the live tree as it was when
it was stored there last, if the slot was not cleared since then. The same holds where trees are made of
nodes that are changed in place: no change but a write to the slot itself shows in it. -/

namespace DeskCalculator

/-! ### Places that steps write to -/

/-- A place that steps write to or empty. -/
structure WrittenPlace (State Step Held : Type) where
  act : State → Step → State
  held : State → Option Held
  write? : State → Step → Option (Option Held)

namespace WrittenPlace

variable {State Step Held : Type} (place : WrittenPlace State Step Held)

def quiet (state : State) : List Step → Bool
  | [] => true
  | step :: rest => (place.write? state step).isNone && quiet (place.act state step) rest

/-- A step writes a value to the place, and no later one writes to it. -/
def WrittenLast (state : State) (steps : List Step) (value : Held) : Prop :=
  ∃ before step after, steps = before ++ step :: after ∧
    place.write? (before.foldl place.act state) step = some (some value) ∧
    place.quiet (place.act (before.foldl place.act state) step) after = true

variable {place}

theorem writtenLast_cons {state : State} {step : Step} {rest : List Step} {value : Held} :
    place.WrittenLast state (step :: rest) value ↔
      (place.write? state step = some (some value) ∧
        place.quiet (place.act state step) rest = true) ∨
      place.WrittenLast (place.act state step) rest value := by
  constructor
  · rintro ⟨before, last, after, split, written, quiet⟩
    cases before with
    | nil =>
        cases split
        exact .inl ⟨written, quiet⟩
    | cons first before =>
        cases split
        exact .inr ⟨before, last, after, rfl, written, quiet⟩
  · rintro (⟨written, quiet⟩ | ⟨before, last, after, split, written, quiet⟩)
    · exact ⟨[], step, rest, rfl, written, quiet⟩
    · exact ⟨step :: before, last, after, by rw [split, List.cons_append], written, quiet⟩

/-- The place holds what was written last, or what it held at first if nothing was. -/
theorem held_iff (Invariant : State → Prop)
    (kept : ∀ state step, Invariant state → Invariant (place.act state step))
    (stepped : ∀ state step, Invariant state →
      place.held (place.act state step) = (place.write? state step).getD (place.held state))
    (state : State) (invariant : Invariant state) (steps : List Step) (value : Held) :
    place.held (steps.foldl place.act state) = some value ↔
      (place.held state = some value ∧ place.quiet state steps = true) ∨
      place.WrittenLast state steps value := by
  induction steps generalizing state with
  | nil =>
      refine ⟨fun held => .inl ⟨held, rfl⟩, ?_⟩
      rintro (⟨held, _⟩ | ⟨before, step, after, split, _⟩)
      · exact held
      · cases before <;> cases split
  | cons step rest inductionHypothesis =>
      rw [List.foldl_cons, inductionHypothesis _ (kept state step invariant), writtenLast_cons,
        stepped state step invariant, ← or_assoc]
      refine or_congr ?_ Iff.rfl
      rw [quiet]
      cases place.write? state step with
      | none => simp
      | some written => simp

end WrittenPlace

namespace SlotRequest

/-- Whole numbers name the slot of that number, and truth values the first two. -/
theorem slot?_eq_some_iff (request : SlotRequest) (slot : Fin slotCount) :
    request.slot? = some slot ↔
      request = .number slot.val ∨ (request = .flag false ∧ slot = 0) ∨
        (request = .flag true ∧ slot = 1) := by
  cases request with
  | number value =>
      have noFlag : ¬ ((SlotRequest.number value = .flag false ∧ slot = 0) ∨
          (SlotRequest.number value = .flag true ∧ slot = 1)) := by
        rintro (⟨impossible, _⟩ | ⟨impossible, _⟩) <;> cases impossible
      rw [or_iff_left noFlag, number.injEq]
      have bound := slot.isLt
      cases value with
      | ofNat index =>
          rw [slot?]
          split
          · rw [Option.some.injEq, Fin.ext_iff, Int.ofNat_eq_natCast, Int.natCast_inj]
          · rename_i outside
            refine ⟨nofun, fun same => absurd bound ?_⟩
            rw [Int.ofNat_eq_natCast, Int.natCast_inj] at same
            exact same ▸ outside
      | negSucc index =>
          exact ⟨nofun, nofun⟩
  | flag value => cases value <;> simp [slot?, eq_comm]
  | other shown => simp [slot?]

end SlotRequest

theorem Memory.pairwise_occupied (memory : Memory) : memory.occupied.Pairwise (· < ·) :=
  (List.pairwise_lt_finRange slotCount).filter _

theorem Memory.mem_occupied (memory : Memory) (slot : Fin slotCount) :
    slot ∈ memory.occupied ↔ (memory.get slot).isSome = true := by
  rw [occupied, List.mem_filter, and_iff_right (List.mem_finRange slot)]

namespace Session

/-- What a run writes to a slot: the live tree where it is stored, nothing where the slot is cleared. -/
def slotPlace (slot : Fin slotCount) : WrittenPlace Session Action Tree where
  act := act
  held session := session.memory.get slot
  write? session
    | .store request =>
      if request.slot? = some slot ∧ session.accepts (.store request) then some (some session.tree)
      else none
    | .clear request => if request.slot? = some slot then some none else none
    | _ => none

theorem get_store (session : Session) (request : SlotRequest) (slot : Fin slotCount) :
    (session.store request).session.memory.get slot =
      if request.slot? = some slot ∧ session.accepts (.store request) then some session.tree
      else session.memory.get slot := by
  cases named : request.slot? with
  | none => simp [store, named]
  | some found =>
      simp only [accepts, store, named, Option.some.injEq]
      split
      · rw [Memory.get_set]
        simp only [and_true]
      · simp only [and_false, if_false, Bool.false_eq_true]

theorem get_clear (session : Session) (request : SlotRequest) (slot : Fin slotCount) :
    (session.clear request).session.memory.get slot =
      if request.slot? = some slot then none else session.memory.get slot := by
  unfold clear
  cases request.slot? with
  | none => rfl
  | some named =>
      dsimp only
      rw [Memory.get_set]
      simp

theorem get_act (session : Session) (action : Action) (slot : Fin slotCount) :
    (session.act action).memory.get slot =
      ((slotPlace slot).write? session action).getD (session.memory.get slot) := by
  cases action with
  | type typed => exact congrArg (Vector.get · slot) (session.type_memory typed)
  | point => exact congrArg (Vector.get · slot) session.typePoint_memory
  | sign => exact congrArg (Vector.get · slot) session.toggleSign_memory
  | operator name => exact congrArg (Vector.get · slot) (session.applyOperator_memory _)
  | finish => rfl
  | discard => rfl
  | store request =>
      refine (session.get_store request slot).trans ?_
      dsimp only [slotPlace]
      split <;> rfl
  | clear request =>
      refine (session.get_clear request slot).trans ?_
      dsimp only [slotPlace]
      split <;> rfl
  | fetch request => exact congrArg (Vector.get · slot) (session.graftStored_memory request)

theorem run_slot (registry : Registry) (inputLimit : Int) (verbose : Bool) (actions : List Action)
    (slot : Fin slotCount) (tree : Tree) :
    ((start registry inputLimit verbose).run actions).memory.get slot = some tree ↔
      (slotPlace slot).WrittenLast (start registry inputLimit verbose) actions tree := by
  have history := (slotPlace slot).held_iff (fun _ => True) (fun _ _ _ => trivial)
    (fun session action _ => session.get_act action slot) (start registry inputLimit verbose) trivial
    actions tree
  have empty : (slotPlace slot).held (start registry inputLimit verbose) = none :=
    Memory.get_empty slot
  rw [empty] at history
  exact history.trans (or_iff_right nofun)

theorem fetch_of_slot {request : SlotRequest} {slot : Fin slotCount}
    (named : request.slot? = some slot) (session : Session) :
    (session.fetch request).answer = session.memory.get slot := by
  simp only [fetch, named]
  cases session.memory.get slot <;> rfl

theorem refused_of_no_slot {request : SlotRequest} (nameless : request.slot? = none)
    (session : Session) :
    ((session.store request).answer = false ∧ (session.store request).session = session) ∧
    ((session.clear request).answer = false ∧ (session.clear request).session = session) ∧
    (session.fetch request).answer = none ∧ (session.fetch request).session = session := by
  simp only [store, clear, fetch, nameless, and_self]

end Session

namespace NodeSession

def slotPlace (slot : Fin slotCount) : WrittenPlace NodeSession Action Tree where
  act := act
  held session := (session.slots slot).map NodeTree.toTree
  write? session
    | .own action => (Session.slotPlace slot).write? session.toSession action
    | _ => none

theorem Apart.get_act {session : NodeSession} (apart : session.Apart) (action : Action)
    (slot : Fin slotCount) :
    ((session.act action).slots slot).map NodeTree.toTree =
      ((slotPlace slot).write? session action).getD
        ((session.slots slot).map NodeTree.toTree) := by
  have kept (notStore : ∀ request, action ≠ .own (.store request))
      (notClear : ∀ request, action ≠ .own (.clear request)) :
      ((session.act action).slots slot).map NodeTree.toTree =
        (session.slots slot).map NodeTree.toTree := by
    rw [(apart.grows_act action notStore notClear).slots]
  have asked {value : Session} (same : (session.act action).toSession = value) :
      ((session.act action).slots slot).map NodeTree.toTree = value.memory.get slot := by
    rw [← same, get_toSession]
  cases action with
  | own action =>
      cases action with
      | store request =>
          rw [asked (session.toSession_store request), ← get_toSession]
          exact session.toSession.get_act (.store request) slot
      | clear request =>
          rw [asked (session.toSession_clear request), ← get_toSession]
          exact session.toSession.get_act (.clear request) slot
      | _ => exact kept nofun nofun
  | _ => exact kept nofun nofun

theorem run_slot (registry : Registry) (inputLimit : Int) (verbose : Bool) (actions : List Action)
    (slot : Fin slotCount) (tree : Tree) :
    (((start registry inputLimit verbose).run actions).slots slot).map NodeTree.toTree = some tree ↔
      (slotPlace slot).WrittenLast (start registry inputLimit verbose) actions tree := by
  have history := (slotPlace slot).held_iff Apart
    (fun _ action apart => apart.act action) (fun _ action apart => apart.get_act action slot)
    _ (.start registry inputLimit verbose) actions tree
  exact history.trans (or_iff_right nofun)

end NodeSession

end DeskCalculator
