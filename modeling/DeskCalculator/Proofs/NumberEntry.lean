import DeskCalculator.Proofs.SessionInvariant

/-! Typing a number key by key. Each key of a number, accepted or not, leads from a number entered
at once to another one entered at once in its place; so the whole row of keys does what a single
graft of the final number would have done. -/

namespace DeskCalculator.Session

/-- The keys of a number; a digit key may bring any characters. -/
inductive EntryKey where
  | digit (typed : List Char)
  | point
  | sign
deriving DecidableEq, Repr

def EntryKey.action : EntryKey → Action
  | .digit typed => .type typed
  | .point => .point
  | .sign => .sign

/-! ### Keys after a number entered at once -/

section Keys

variable {session : Session} (growing : session.tree.Growing)
include growing

theorem edit_enter (old characters : List Char) :
    (session.enter old).edit characters = session.enter characters :=
  openOperand_edit session growing (Numeral.finite? old) characters

theorem type_enter (old typed : List Char) :
    (session.enter old).type typed =
      if session.isFull old then (session.enter old, none)
      else (session.enter (old ++ typed), some (old ++ typed)) := by
  change (if session.isFull old then (session.enter old, none)
    else ((session.enter old).edit (old ++ typed), some (old ++ typed))) = _
  rw [edit_enter growing]

omit growing in
theorem typePoint_enter (old : List Char) :
    (session.enter old).typePoint =
      if old.contains '.' then (session.enter old, none) else (session.enter old).type ['.'] :=
  rfl

theorem toggleSign_enter (old : List Char) :
    ∃ characters, (session.enter old).toggleSign = session.enter characters := by
  unfold toggleSign
  split
  · rename_i idle
    cases idle
  · rename_i rest typing
    exact ⟨rest, edit_enter growing old rest⟩
  · rename_i characters typing _
    exact ⟨'-' :: characters, edit_enter growing old ('-' :: characters)⟩

theorem act_enter (old : List Char) (key : EntryKey) :
    ∃ characters, (session.enter old).act key.action = session.enter characters := by
  have typed (text : List Char) :
      ∃ characters, ((session.enter old).type text).1 = session.enter characters := by
    rw [type_enter growing]
    split
    · exact ⟨old, rfl⟩
    · exact ⟨old ++ text, rfl⟩
  cases key with
  | digit text => exact typed text
  | point =>
      change ∃ characters, (session.enter old).typePoint.1 = session.enter characters
      rw [typePoint_enter]
      split
      · exact ⟨old, rfl⟩
      · exact typed ['.']
  | sign => exact toggleSign_enter growing old

theorem run_enter (old : List Char) (keys : List EntryKey) :
    ∃ characters,
      (session.enter old).run (keys.map EntryKey.action) = session.enter characters := by
  induction keys generalizing old with
  | nil => exact ⟨old, rfl⟩
  | cons key rest inductionHypothesis =>
      obtain ⟨characters, acted⟩ := act_enter growing old key
      change ∃ next, ((session.enter old).act key.action).run (rest.map EntryKey.action) =
        session.enter next
      rw [acted]
      exact inductionHypothesis characters

/-! ### The first key -/

variable (idle : session.entry = none)
include idle

theorem type_idle (typed : List Char) :
    session.type typed = (session.enter typed, some typed) := by
  unfold Session.type
  rw [idle]
  dsimp only
  rw [openOperand_edit session growing]

theorem typePoint_idle : session.typePoint = (session.enter ['.'], some ['.']) := by
  unfold typePoint
  rw [idle, if_neg (by decide), type_idle growing idle]

theorem act_idle (key : EntryKey) :
    ∃ characters, session.act key.action = session.enter characters := by
  cases key with
  | digit typed => exact ⟨typed, congrArg Prod.fst (type_idle growing idle typed)⟩
  | point => exact ⟨['.'], congrArg Prod.fst (typePoint_idle growing idle)⟩
  | sign =>
      refine ⟨['-'], ?_⟩
      change session.toggleSign = session.enter ['-']
      unfold toggleSign
      rw [idle]
      exact openOperand_edit session growing none ['-']

end Keys

/-! ### Whole numbers -/

/-- However a number is typed, the session that results differs from the one before its first key
only in the characters and in one graft of the value they have at the end. Once the first key has
opened an operand, no other node of the tree changes. -/
theorem typed_number_is_one_graft (registry : Registry) (inputLimit : Int) (verbose : Bool)
    (actions : List Action) (first : EntryKey) (rest : List EntryKey)
    (idle : ((Session.start registry inputLimit verbose).run actions).entry = none) :
    let before := (Session.start registry inputLimit verbose).run actions
    let opened := before.act first.action
    let after := before.run ((first :: rest).map EntryKey.action)
    (∃ characters, after = { before with
      entry := some characters
      tree := before.tree.graft (.operand (Numeral.finite? characters)) }) ∧
    ∃ leaf, opened.tree.editablePath? = some leaf ∧
      ∀ path, path ≠ leaf → after.tree.contentAt? path = opened.tree.contentAt? path := by
  intro before opened after
  have growing : before.tree.Growing :=
    (reachable_sound registry inputLimit verbose actions).growing
  obtain ⟨begun, openedEq⟩ : ∃ begun, opened = before.enter begun :=
    act_idle growing idle first
  obtain ⟨characters, afterEq⟩ : ∃ characters, after = before.enter characters := by
    change ∃ characters, opened.run (rest.map EntryKey.action) = before.enter characters
    rw [openedEq]
    exact run_enter growing begun rest
  have edited : after.tree = opened.tree.editLeaf (Numeral.finite? characters) := by
    rw [afterEq, openedEq]
    exact (congrArg Session.tree (edit_enter growing begun characters)).symm
  have found : opened.tree.editableLeaf? = some (.operand (Numeral.finite? begun)) := by
    rw [openedEq]
    exact growing.editableLeaf?_graft rfl
  obtain ⟨leaf, atLeaf, _⟩ := Option.map_eq_some_iff.mp found
  refine ⟨⟨characters, afterEq⟩, leaf, atLeaf, ?_⟩
  intro path elsewhere
  rw [edited]
  apply Tree.contentAt?_editLeaf
  rw [atLeaf]
  intro same
  exact elsewhere (Option.some.inj same).symm

/-- The point that is pressed a second time is refused; the sign comes last. -/
theorem typed_right_operand_is_one_graft :
    let before := (Session.start .standard 12 false).run [.type ['7'], .operator "+"]
    let after := before.run ([.digit ['1'], .point, .point, .sign].map EntryKey.action)
    before.entry = none ∧
      after = { before with
        entry := some ['-', '1', '.']
        tree := before.tree.graft (.operand (Numeral.finite? ['-', '1', '.'])) } := by
  intro before after
  have idle : before.entry = none := by decide +kernel
  have final : after.entry = some ['-', '1', '.'] := by decide +kernel
  obtain ⟨⟨characters, typed⟩, _⟩ :=
    typed_number_is_one_graft .standard 12 false [.type ['7'], .operator "+"]
      (.digit ['1']) [.point, .point, .sign] idle
  have same : some characters = some ['-', '1', '.'] :=
    (congrArg Session.entry typed).symm.trans final
  cases same
  exact ⟨idle, typed⟩

/-! ### Numbers without a sign -/

/-- A row of digits with at most one point, digits included, that the limit lets in. -/
structure Typable (limit : Int) (number : List Char) : Prop where
  keys : ∀ character ∈ number, character.isDigit = true ∨ character = '.'
  digit : ∃ character ∈ number, character.isDigit = true
  points : number.count '.' ≤ 1
  short : number.length ≤ limit

def pressed (character : Char) : Action :=
  if character = '.' then .point else .type [character]

def typing (number : List Char) : List Action :=
  number.map pressed

theorem pressed_enter {session : Session} (growing : session.tree.Growing) (old : List Char)
    (character : Char) (room : old.length < session.inputLimit)
    (single : character = '.' → '.' ∉ old) :
    (session.enter old).Leads [pressed character] (session.enter (old ++ [character])) := by
  have notFull : session.isFull old = false := decide_eq_false (by omega)
  have typed : (session.enter old).type [character] =
      (session.enter (old ++ [character]), some (old ++ [character])) := by
    rw [type_enter growing, notFull]
    rfl
  by_cases point : character = '.'
  · have pointTyped : (session.enter old).typePoint = (session.enter old).type [character] := by
      rw [typePoint_enter, if_neg (by simpa using single point), point]
    rw [pressed, if_pos point]
    apply Leads.single
    · rw [accepts, pointTyped, typed]
      rfl
    · rw [act, pointTyped, typed]
  · rw [pressed, if_neg point]
    apply Leads.single
    · rw [accepts, typed]
      rfl
    · rw [act, typed]

theorem typing_enter {session : Session} (growing : session.tree.Growing)
    (old rest : List Char) (room : old.length + rest.length ≤ session.inputLimit)
    (points : (old ++ rest).count '.' ≤ 1) :
    (session.enter old).Leads (typing rest) (session.enter (old ++ rest)) := by
  induction rest generalizing old with
  | nil =>
      rw [List.append_nil]
      exact .nil _
  | cons character rest inductionHypothesis =>
      -- The limit is tested against what stands there before the key.
      rw [List.length_cons] at room
      have single : character = '.' → '.' ∉ old := by
        intro point earlier
        have before : 0 < old.count '.' := List.count_pos_iff.mpr earlier
        rw [point, List.count_append, List.count_cons_self] at points
        omega
      have moved : old ++ character :: rest = old ++ [character] ++ rest :=
        List.append_cons old character rest
      rw [moved] at points ⊢
      have first := pressed_enter growing old character (by omega) single
      have later := inductionHypothesis (old ++ [character])
        (by rw [List.length_append, List.length_singleton]; omega) points
      exact first.append later

theorem typing_idle {session : Session} (growing : session.tree.Growing)
    (idle : session.entry = none) {number : List Char}
    (typable : Typable session.inputLimit number) :
    session.Leads (typing number) (session.enter number) := by
  cases number with
  | nil =>
      obtain ⟨character, member, _⟩ := typable.digit
      cases member
  | cons character rest =>
      have first : session.Leads [pressed character] (session.enter [character]) := by
        by_cases point : character = '.'
        · rw [pressed, if_pos point, point]
          apply Leads.single
          · rw [accepts, typePoint_idle growing idle]
            rfl
          · rw [act, typePoint_idle growing idle]
        · rw [pressed, if_neg point]
          apply Leads.single
          · rw [accepts, type_idle growing idle]
            rfl
          · rw [act, type_idle growing idle]
      have short := typable.short
      rw [List.length_cons] at short
      have later := typing_enter growing [character] rest
        (by rw [List.length_singleton]; omega) typable.points
      exact first.append later

end DeskCalculator.Session
