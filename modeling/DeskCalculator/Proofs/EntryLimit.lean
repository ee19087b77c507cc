import DeskCalculator.Proofs.NumberEntry

/-! The characters of the number being typed, and their limit. Digits and the point need room, the sign
does not. A number with more characters than the limit allows is a full one with a sign before it. -/

namespace DeskCalculator.Session

/-! ### What an action does to the characters -/

/-- Only digits, the point and the sign change the characters of a number; all else keeps or ends it. -/
inductive Retypes (limit : Int) : Option (List Char) → Action → Option (List Char) → Prop
  | kept (entry : Option (List Char)) (action : Action) : Retypes limit entry action entry
  | ended (entry : Option (List Char)) (action : Action) : Retypes limit entry action none
  | begun (typed : List Char) : Retypes limit none (.type typed) (some typed)
  | typed {old : List Char} (typed : List Char) (room : old.length < limit) :
      Retypes limit (some old) (.type typed) (some (old ++ typed))
  | begunPoint : Retypes limit none .point (some ['.'])
  | pointed {old : List Char} (room : old.length < limit) (single : '.' ∉ old) :
      Retypes limit (some old) .point (some (old ++ ['.']))
  | begunSign : Retypes limit none .sign (some ['-'])
  | signed (old : List Char) : Retypes limit (some old) .sign (some (toggled old))

theorem type_entry (session : Session) (typed : List Char) :
    (session.type typed).1.entry = session.entry ∨
    (session.entry = none ∧ (session.type typed).1.entry = some typed) ∨
    ∃ old, session.entry = some old ∧ old.length < session.inputLimit ∧
      (session.type typed).1.entry = some (old ++ typed) := by
  unfold type
  split
  · rename_i idle
    exact .inr (.inl ⟨idle, rfl⟩)
  · rename_i old typing
    split
    · exact .inl rfl
    · rename_i room
      have below : old.length < session.inputLimit :=
        Int.not_le.mp (fun full => room (decide_eq_true full))
      exact .inr (.inr ⟨old, typing, below, rfl⟩)

theorem toggleSign_entry (session : Session) :
    Retypes session.inputLimit session.entry .sign session.toggleSign.entry := by
  cases entry : session.entry with
  | none =>
      rw [toggleSign_idle entry]
      exact .begunSign
  | some old =>
      rw [toggleSign_typing entry]
      exact .signed old

theorem point_retypes (session : Session) :
    Retypes session.inputLimit session.entry .point session.typePoint.1.entry := by
  unfold typePoint
  split
  · exact .kept _ _
  · rename_i pointless
    rcases session.type_entry ['.'] with kept | ⟨idle, begun⟩ | ⟨old, typing, room, grown⟩
    · rw [kept]
      exact .kept _ _
    · rw [idle, begun]
      exact .begunPoint
    · rw [typing] at pointless ⊢
      rw [grown]
      exact .pointed room (by simpa using pointless)

theorem act_retypes (session : Session) (action : Action) :
    Retypes session.inputLimit session.entry action (session.act action).entry := by
  cases action with
  | type typed =>
      change Retypes _ _ _ (session.type typed).1.entry
      rcases session.type_entry typed with kept | ⟨idle, begun⟩ | ⟨old, typing, room, grown⟩
      · rw [kept]
        exact .kept _ _
      · rw [idle, begun]
        exact .begun typed
      · rw [typing, grown]
        exact .typed typed room
  | point => exact session.point_retypes
  | sign => exact session.toggleSign_entry
  | operator name =>
      change Retypes _ _ _ (session.applyOperator _).1.entry
      rw [applyOperator_entry]
      exact .ended _ _
  | finish => exact .ended _ _
  | discard => exact .ended _ _
  | store request =>
      change Retypes _ _ _ (session.store request).session.entry
      rw [store_entry]
      exact .kept _ _
  | clear request =>
      change Retypes _ _ _ (session.clear request).session.entry
      rw [clear_entry]
      exact .kept _ _
  | fetch request =>
      change Retypes _ _ _ (session.graftStored request).entry
      unfold graftStored
      split
      · exact .kept _ _
      · exact .ended _ _

/-! ### The limit never changes -/

theorem type_inputLimit (session : Session) (typed : List Char) :
    (session.type typed).1.inputLimit = session.inputLimit := by
  unfold type
  split
  · rfl
  · split <;> rfl

theorem act_inputLimit (session : Session) (action : Action) :
    (session.act action).inputLimit = session.inputLimit := by
  cases action with
  | type typed => exact session.type_inputLimit typed
  | point =>
      change session.typePoint.1.inputLimit = session.inputLimit
      unfold typePoint
      split
      · rfl
      · exact session.type_inputLimit ['.']
  | sign =>
      change session.toggleSign.inputLimit = session.inputLimit
      unfold toggleSign
      split <;> rfl
  | operator name =>
      change (session.applyOperator _).1.inputLimit = session.inputLimit
      unfold applyOperator
      split
      · rfl
      · dsimp only
        split
        · rfl
        · split <;> rfl
  | finish => rfl
  | discard => rfl
  | store request =>
      change (session.store request).session.inputLimit = session.inputLimit
      unfold store
      split
      · rfl
      · split <;> rfl
  | clear request =>
      change (session.clear request).session.inputLimit = session.inputLimit
      unfold clear
      split <;> rfl
  | fetch request =>
      change (session.graftStored request).inputLimit = session.inputLimit
      unfold graftStored
      split <;> rfl

theorem run_inputLimit (session : Session) (actions : List Action) :
    (session.run actions).inputLimit = session.inputLimit :=
  @run_keeps (fun later => later.inputLimit = session.inputLimit)
    (fun later action same => (later.act_inputLimit action).trans same) session rfl actions

/-- What all allowed actions keep of the characters holds after every run of them. -/
theorem run_retypes (Allowed : Action → Prop) (Holds : Option (List Char) → Prop) {limit : Int}
    (step : ∀ {before action after}, Allowed action → Retypes limit before action after →
      Holds before → Holds after)
    {session : Session} (limited : session.inputLimit = limit) (start : Holds session.entry)
    (actions : List Action) (allowed : ∀ action ∈ actions, Allowed action) :
    Holds (session.run actions).entry := by
  induction actions generalizing session with
  | nil => exact start
  | cons action rest inductionHypothesis =>
      have first : Allowed action := allowed action List.mem_cons_self
      have retyped := session.act_retypes action
      rw [limited] at retyped
      exact inductionHypothesis ((session.act_inputLimit action).trans limited)
        (step first retyped start) (fun later member => allowed later (List.mem_cons_of_mem _ member))

/-! ### How long a number gets -/

/-- A number within the limit, or one that was full before it got its sign. -/
def FitsButSign (limit : Int) (characters : List Char) : Prop :=
  characters.length ≤ limit ∨ ∃ full, characters = '-' :: full ∧ full.length = limit

theorem FitsButSign.toggled {limit : Int} {old : List Char} (fits : FitsButSign limit old) :
    FitsButSign limit (toggled old) := by
  rcases fits with short | ⟨full, rfl, exact⟩
  · unfold Session.toggled
    split
    · rename_i rest
      rw [List.length_cons] at short
      exact .inl (by omega)
    · by_cases full : old.length = limit
      · exact .inr ⟨old, rfl, full⟩
      · rw [FitsButSign, List.length_cons]
        exact .inl (by omega)
  · exact .inl (Int.le_of_eq exact)

theorem FitsButSign.retyped {limit : Int} (positive : 1 ≤ limit) {action : Action}
    {before after : Option (List Char)}
    (single : ∀ typed, action = .type typed → typed.length = 1)
    (retyped : Retypes limit before action after)
    (fits : ∀ characters, before = some characters → FitsButSign limit characters) :
    ∀ characters, after = some characters → FitsButSign limit characters := by
  intro characters typing
  cases retyped with
  | kept => exact fits characters typing
  | ended => cases typing
  | begun typed =>
      cases typing
      have one := single characters rfl
      exact .inl (by omega)
  | typed typed room =>
      cases typing
      have one := single typed rfl
      rw [FitsButSign, List.length_append]
      exact .inl (by omega)
  | begunPoint =>
      cases typing
      exact .inl positive
  | pointed room =>
      cases typing
      rw [FitsButSign, List.length_append, List.length_singleton]
      exact .inl (by omega)
  | begunSign =>
      cases typing
      exact .inl positive
  | signed old =>
      cases typing
      exact (fits old rfl).toggled

theorem toggled_of_keys {number : List Char}
    (keys : ∀ character ∈ number, character.isDigit = true ∨ character = '.') :
    toggled number = '-' :: number := by
  apply toggled_unsigned
  rintro rest rfl
  rcases keys '-' List.mem_cons_self with digit | point
  · cases digit
  · cases point

/-- Where each digit key brings one character, only a sign can lead beyond the limit, and by no more than
itself; and every number without a sign takes one, also a full one. -/
theorem sign_alone_exceeds_limit (registry : Registry) (verbose : Bool) (limit : Int)
    (positive : 1 ≤ limit) (actions : List Action)
    (single : ∀ typed, .type typed ∈ actions → typed.length = 1) :
    let session := (Session.start registry limit verbose).run actions
    (∀ characters, session.entry = some characters →
      characters.length ≤ limit ∨ ∃ full, characters = '-' :: full ∧ full.length = limit) ∧
    (session.entry = none → ∀ number, Typable limit number →
      (session.run (typing number ++ [.sign])).entry = some ('-' :: number)) := by
  intro session
  constructor
  · refine run_retypes (fun action => ∀ typed, action = .type typed → typed.length = 1)
      (fun entry => ∀ characters, entry = some characters → FitsButSign limit characters)
      (FitsButSign.retyped positive) rfl ?_ actions ?_
    · intro characters typing
      cases typing
    · rintro action member typed rfl
      exact single typed member
  · intro idle number typable
    have sound := reachable_sound registry limit verbose actions
    have limited : session.inputLimit = limit := run_inputLimit _ actions
    have typed := typing_idle sound.growing idle (limited.symm ▸ typable)
    have signed : (session.enter number).toggleSign = (session.enter number).edit ('-' :: number) := by
      rw [← toggled_of_keys typable.keys]
      exact toggleSign_typing rfl
    rw [run_append, typed.reached]
    exact congrArg Session.entry signed

/-- Twelve characters are typed as the right operand of a sum, and the sign makes them thirteen. -/
theorem full_operand_takes_sign :
    let actions : List Action := [.type ['7'], .operator "+"]
    let session := (Session.start .standard 12 false).run actions
    (1 : Int) ≤ 12 ∧ (∀ typed, .type typed ∈ actions → typed.length = 1) ∧
    (session.run (typing "123456789.25".toList ++ [.sign])).entry =
      some ('-' :: "123456789.25".toList) := by
  intro actions session
  have single : ∀ typed, .type typed ∈ actions → typed.length = 1 := by
    simp [actions]
  have typable : Typable 12 "123456789.25".toList :=
    ⟨by simp, ⟨'1', by simp⟩, by decide, by decide⟩
  exact ⟨by decide, single,
    (sign_alone_exceeds_limit .standard false 12 (by decide) actions single).2 (by decide +kernel)
      "123456789.25".toList typable⟩

theorem length_exceeds_limit_of_one :
    ¬ ∀ (limit : Int) (actions : List Action), 1 ≤ limit →
      (∀ typed, .type typed ∈ actions → typed.length = 1) →
      ∀ characters, ((Session.start .standard limit false).run actions).entry = some characters →
        characters.length ≤ limit := by
  intro bounded
  have two := bounded 1 [.type ['5'], .sign] (by decide)
    (by simp) ['-', '5'] (by decide +kernel)
  exact absurd two (by decide)

end DeskCalculator.Session
