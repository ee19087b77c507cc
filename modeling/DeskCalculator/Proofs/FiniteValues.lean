import DeskCalculator.Proofs.Readability

/-! Infinities and the undefined value stay out of a session. What an operator gives is taken only where
it is finite, and so is what a number being typed denotes; hence each part of a tree has a finite value
or none, and the texts of numbers show no others. -/

namespace DeskCalculator

/-! ### The characters of numbers -/

theorem Numeral.hasCharacter_write {value : Float} (finite : value.isFinite = true)
    {character : Char} (member : character ∈ (Layout.plain.write value).toList) :
    Numeral.hasCharacter character := by
  obtain ⟨parts, spell, text⟩ := exists_spell_write finite
  rw [text] at member
  rcases List.mem_append.mp member with sign | body
  · have minus : character = '-' := by
      split at sign
      · exact List.mem_singleton.mp sign
      · cases sign
    exact minus ▸ .inr (by decide)
  · exact spell.proper.hasCharacter body

theorem Numeral.hasCharacter_toString {number : Int} {character : Char}
    (member : character ∈ (toString number).toList) : Numeral.hasCharacter character := by
  have digits (size : Nat) (inside : character ∈ (toString size).toList) :
      Numeral.hasCharacter character := by
    rw [Nat.toString_eq_ofList_toDigits, String.toList_ofList] at inside
    exact .inl ((wholeDigits_digits size).isDigit character inside)
  cases number with
  | ofNat size => exact digits size member
  | negSucc size =>
      change character ∈ ("-" ++ toString (size + 1)).toList at member
      rw [String.toList_append, List.mem_append] at member
      rcases member with sign | inside
      · exact .inr (List.mem_singleton.mp sign ▸ by decide)
      · exact digits (size + 1) inside

theorem Numeral.hasCharacter_displayNumber {value : Float} (finite : value.isFinite = true)
    {character : Char} (member : character ∈ (displayNumber (some value)).toList) :
    Numeral.hasCharacter character := by
  rcases displayedNumber_cases value with ⟨number, _, _, _, shown⟩ | ⟨_, shown⟩
  · rw [shown] at member
    exact Numeral.hasCharacter_toString member
  · rw [shown] at member
    exact Numeral.hasCharacter_write finite member

def ShowsFinite (text : String) : Prop :=
  text = placeholder ∨ ∃ value : Float, value.isFinite = true ∧ text = displayNumber (some value) ∧
    Denotes text.toList (displayedNumber value) ∧
    ∀ character ∈ text.toList, Numeral.hasCharacter character

theorem ShowsFinite.displayNumber {value : Option Float}
    (finite : ∀ number, value = some number → number.isFinite = true) :
    ShowsFinite (displayNumber value) := by
  cases value with
  | none => exact .inl rfl
  | some number =>
      have isFinite := finite number rfl
      exact .inr ⟨number, isFinite, rfl, denotes_displayNumber isFinite,
        fun _ member => Numeral.hasCharacter_displayNumber isFinite member⟩

namespace Tree

/-! ### Values -/

section Values

variable {registry : Registry} {tree : Tree}

theorem Admitted.subtree (admitted : tree.Admitted registry) (path : Path) :
    (tree.subtree path).Admitted registry := by
  induction tree generalizing path with
  | absent =>
      rw [subtree_absent]
      trivial
  | node content left right leftHypothesis rightHypothesis =>
      cases path with
      | nil => exact admitted
      | cons side rest =>
          cases side with
          | left => exact leftHypothesis admitted.2.1 rest
          | right => exact rightHypothesis admitted.2.2 rest

/-- The operators may give anything. -/
theorem Admitted.evaluate (admitted : tree.Admitted registry) (value : Float)
    (defined : tree.evaluate = some value) : value.isFinite = true := by
  have filtered {result : Option Float} (finite : Binary64.finite? result = some value) :
      value.isFinite = true := (Option.filter_eq_some_iff.mp finite).2
  unfold Tree.evaluate at defined
  split at defined
  · cases defined
  · cases defined
  · exact admitted.1 value defined
  · split at defined
    · cases defined
    · exact filtered defined
  · split at defined
    · exact filtered defined
    · cases defined

end Values

/-! ### The pieces of an expression -/

/-- A displayed expression is a row of operands and of signs between them. -/
inductive Piece where
  | operand (value : Option Float)
  | sign (text : String)

def Piece.text : Piece → String
  | operand value => displayNumber value
  | sign text => text

def pieces : Tree → List Piece
  | absent => [.sign missingOperand]
  | node .blank _ _ => [.sign placeholder]
  | node (.operand value) _ _ => [.operand value]
  | node (.operator (.unary symbol _)) left _ =>
    .sign symbol :: if left.isPresent then left.pieces else []
  | node (.operator (.binary symbol _)) left right =>
    if left.isPresent then
      .sign "(" :: left.pieces ++ .sign symbol :: right.pieces ++ [.sign ")"]
    else [.sign "(", .sign missingOperand, .sign symbol, .sign missingOperand, .sign ")"]

theorem toList_render (tree : Tree) :
    tree.render.toList = tree.pieces.flatMap fun piece => piece.text.toList := by
  induction tree with
  | absent => rfl
  | node content left right leftHypothesis rightHypothesis =>
      cases content with
      | blank => simp [render, pieces, Piece.text]
      | operand value => simp [render, pieces, Piece.text]
      | operator op =>
          cases op with
          | unary symbol apply =>
              rw [render, pieces]
              split
              · simp [Piece.text, leftHypothesis]
              · simp [Piece.text]
          | binary symbol apply =>
              rw [render, pieces]
              split
              · simp [Piece.text, leftHypothesis, rightHypothesis]
              · simp [Piece.text]

theorem Admitted.pieces {registry : Registry} {tree : Tree} (admitted : tree.Admitted registry)
    {value : Option Float} (member : .operand value ∈ tree.pieces) (number : Float)
    (defined : value = some number) : number.isFinite = true := by
  induction tree with
  | absent => simp [Tree.pieces] at member
  | node content left right leftHypothesis rightHypothesis =>
      obtain ⟨root, leftAdmitted, rightAdmitted⟩ := admitted
      cases content with
      | blank => simp [Tree.pieces] at member
      | operand held =>
          have same : value = held := by simpa [Tree.pieces] using member
          exact root number (same ▸ defined)
      | operator op =>
          cases op with
          | unary symbol apply =>
              rw [Tree.pieces] at member
              split at member
              · exact leftHypothesis leftAdmitted (by simpa using member)
              · simp at member
          | binary symbol apply =>
              rw [Tree.pieces] at member
              split at member
              · have inside : .operand value ∈ left.pieces ∨ .operand value ∈ right.pieces := by
                  simpa using member
                exact inside.elim (leftHypothesis leftAdmitted) (rightHypothesis rightAdmitted)
              · simp at member

end Tree

namespace Session

theorem Admitted.has {registry : Registry} {session : Session} (admitted : session.Admitted registry)
    {tree : Tree} (has : session.Has tree) : tree.Admitted registry := by
  rcases has with rfl | ⟨slot, held⟩
  · exact admitted.live
  · exact admitted.stored slot tree held

/-- Whatever the operators of a session give, each operand of its live tree and of its stored trees has
a finite value or none, and so has each part of these trees. The result and the operands on the display
show finite numbers or the placeholder: their texts are made of digits, signs, points and the mark of
the exponent. -/
theorem reachable_values_finite (registry : Registry) (inputLimit : Int) (verbose : Bool)
    (actions : List Action) :
    let session := (Session.start registry inputLimit verbose).run actions
    (∀ tree, session.Has tree →
      (∀ path value left right, tree.subtree path = .node (.operand (some value)) left right →
        value.isFinite = true) ∧
      (∀ path value, (tree.subtree path).evaluate = some value → value.isFinite = true) ∧
      tree.render.toList = tree.pieces.flatMap (fun piece => piece.text.toList) ∧
      ∀ value, Tree.Piece.operand value ∈ tree.pieces → ShowsFinite (displayNumber value)) ∧
    ShowsFinite session.resultText := by
  intro session
  have admitted : session.Admitted registry :=
    reachable_admitted registry inputLimit verbose actions
  refine ⟨fun tree has => ?_, ?_⟩
  · have held : tree.Admitted registry := admitted.has has
    refine ⟨?_, fun path => (held.subtree path).evaluate, tree.toList_render, ?_⟩
    · intro path value left right found
      have root := held.subtree path
      rw [found] at root
      exact root.1 value rfl
    · exact fun value member => .displayNumber (held.pieces member)
  · exact .displayNumber admitted.live.evaluate

end Session
end DeskCalculator
