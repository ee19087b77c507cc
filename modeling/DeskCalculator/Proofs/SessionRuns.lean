import DeskCalculator.Session.Entry
import DeskCalculator.Session.Operation
import DeskCalculator.Session.Recall

/-! Runs of a session. An action is what the user of a session can do to it; a run is any number of
actions, one after the other. Whatever every action keeps holds after every run. -/

namespace DeskCalculator.Session

inductive Action where
  | type (typed : List Char)
  | point
  | sign
  | operator (name : String)
  | finish
  | discard
  | store (slot : SlotRequest)
  | clear (slot : SlotRequest)
  | fetch (slot : SlotRequest)
deriving DecidableEq, Repr

/-- Grafts the tree of a slot onto the live tree; nothing is done where no tree is found. -/
def graftStored (session : Session) (request : SlotRequest) : Session :=
  match (session.fetch request).answer with
  | none => session
  | some tree => (session.graft tree).1

def act (session : Session) : Action → Session
  | .type typed => (session.type typed).1
  | .point => session.typePoint.1
  | .sign => session.toggleSign
  | .operator name => (session.pressOperator name).1
  | .finish => session.endNumber
  | .discard => session.discard
  | .store slot => (session.store slot).session
  | .clear slot => (session.clear slot).session
  | .fetch slot => session.graftStored slot

def run (session : Session) (actions : List Action) : Session :=
  actions.foldl act session

def accepts (session : Session) : Action → Bool
  | .type typed => (session.type typed).2.isSome
  | .point => session.typePoint.2.isSome
  | .sign => true
  | .operator name => (session.pressOperator name).2.isSome
  | .finish => true
  | .discard => true
  | .store slot => (session.store slot).answer
  | .clear slot => slot.slot?.isSome
  | .fetch slot => (session.fetch slot).answer.isSome

def acceptsAll (session : Session) : List Action → Bool
  | [] => true
  | action :: rest => session.accepts action && (session.act action).acceptsAll rest

theorem run_append (session : Session) (before after : List Action) :
    session.run (before ++ after) = (session.run before).run after :=
  List.foldl_append

theorem acceptsAll_append (session : Session) (before after : List Action) :
    session.acceptsAll (before ++ after) =
      (session.acceptsAll before && (session.run before).acceptsAll after) := by
  induction before generalizing session with
  | nil => rfl
  | cons action rest inductionHypothesis =>
      change (session.accepts action && (session.act action).acceptsAll (rest ++ after)) = _
      rw [inductionHypothesis, ← Bool.and_assoc]
      rfl

/-- An invariant of single actions is one of whole runs. -/
theorem run_keeps {Holds : Session → Prop}
    (kept : ∀ session action, Holds session → Holds (session.act action))
    (session : Session) (start : Holds session) (actions : List Action) :
    Holds (session.run actions) := by
  induction actions generalizing session with
  | nil => exact start
  | cons action rest inductionHypothesis =>
      exact inductionHypothesis (session.act action) (kept session action start)

/-! ### The memory bank and the number being typed -/

theorem fetch_session (session : Session) (request : SlotRequest) :
    (session.fetch request).session = session := by
  unfold fetch
  split
  · rfl
  · split <;> rfl

theorem type_memory (session : Session) (typed : List Char) :
    (session.type typed).1.memory = session.memory := by
  unfold type
  split
  · rfl
  · split <;> rfl

theorem typePoint_memory (session : Session) : session.typePoint.1.memory = session.memory := by
  unfold typePoint
  split
  · rfl
  · exact session.type_memory _

theorem toggleSign_memory (session : Session) : session.toggleSign.memory = session.memory := by
  unfold toggleSign
  split <;> rfl

theorem applyOperator_memory (session : Session) (op? : Option Operator) :
    (session.applyOperator op?).1.memory = session.memory := by
  unfold applyOperator
  cases op? with
  | none => rfl
  | some op =>
      dsimp only
      split
      · rfl
      · split <;> rfl

theorem graftStored_memory (session : Session) (request : SlotRequest) :
    (session.graftStored request).memory = session.memory := by
  unfold graftStored
  split <;> rfl

theorem applyOperator_entry (session : Session) (op? : Option Operator) :
    (session.applyOperator op?).1.entry = none := by
  unfold applyOperator
  cases op? with
  | none => rfl
  | some op =>
      dsimp only
      split
      · rfl
      · split <;> rfl

theorem store_entry (session : Session) (request : SlotRequest) :
    (session.store request).session.entry = session.entry := by
  unfold store
  split
  · rfl
  · split <;> rfl

theorem clear_entry (session : Session) (request : SlotRequest) :
    (session.clear request).session.entry = session.entry := by
  unfold clear
  split <;> rfl

/-! ### Refused keys -/

theorem type_refused {session : Session} {typed : List Char}
    (refused : (session.type typed).2 = none) : (session.type typed).1 = session := by
  unfold type at refused ⊢
  split at refused
  · cases refused
  · split at refused
    · rename_i full
      rw [if_pos full]
    · cases refused

theorem typePoint_refused {session : Session} (refused : session.typePoint.2 = none) :
    session.typePoint.1 = session := by
  unfold typePoint at refused ⊢
  split
  · rfl
  · rename_i fits
    rw [if_neg fits] at refused
    exact type_refused refused

theorem store_refused {session : Session} {request : SlotRequest}
    (refused : (session.store request).answer = false) :
    (session.store request).session = session := by
  unfold store at refused ⊢
  split
  · rfl
  · rename_i slot named
    split
    · rename_i whole
      simp only [named, if_pos whole] at refused
      cases refused
    · rfl

/-- A refused action changes nothing, unless it is an operator. -/
theorem act_refused {session : Session} {action : Action}
    (refused : session.accepts action = false) (other : ∀ name, action ≠ .operator name) :
    session.act action = session := by
  have nothing {α : Type} {answer? : Option α} (refused : answer?.isSome = false) :
      answer? = none := Option.isNone_iff_eq_none.mp (Option.isSome_eq_false_iff.mp refused)
  cases action with
  | type typed => exact type_refused (nothing refused)
  | point => exact typePoint_refused (nothing refused)
  | operator name => exact absurd rfl (other name)
  | store request => exact store_refused refused
  | clear request =>
      have nameless : request.slot? = none := nothing refused
      simp only [act, clear, nameless]
  | fetch request =>
      have empty : (session.fetch request).answer = none := nothing refused
      simp only [act, graftStored, empty]
  | sign => cases refused
  | finish => cases refused
  | discard => cases refused

/-! ### Runs without a refusal -/

structure Leads (session : Session) (actions : List Action) (final : Session) : Prop where
  accepted : session.acceptsAll actions = true
  reached : session.run actions = final

theorem Leads.nil (session : Session) : session.Leads [] session :=
  ⟨rfl, rfl⟩

theorem Leads.single {session final : Session} {action : Action}
    (accepted : session.accepts action = true) (reached : session.act action = final) :
    session.Leads [action] final := by
  refine ⟨?_, reached⟩
  rw [acceptsAll, accepted]
  rfl

theorem Leads.append {session middle final : Session} {before after : List Action}
    (first : session.Leads before middle) (second : middle.Leads after final) :
    session.Leads (before ++ after) final := by
  constructor
  · rw [acceptsAll_append, first.accepted, first.reached, second.accepted]
    rfl
  · rw [run_append, first.reached, second.reached]

end DeskCalculator.Session
