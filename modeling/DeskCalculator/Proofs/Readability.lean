import DeskCalculator.Proofs.NumberText
import DeskCalculator.Proofs.TreeContents

/-! Reading the display. The text of a tree tells which tree it is, but for the sign of its zeros and
for a blank root, which looks like an operand without a value. -/

namespace DeskCalculator

/-! ### Displayed numbers -/

namespace Binary64

def plainZero (value : Float) : Float :=
  if value == 0 then 0 else value

theorem beq_zero_iff (value : Float) : (value == 0) = true ↔ magnitude value = 0 := by
  constructor
  · intro equal
    rcases (Float.beq_iff_ne_nan_and_eq.mp equal).2.2 with rfl | ⟨rfl, _⟩ | ⟨rfl, _⟩
    · decide
    · decide
    · decide
  · intro zero
    rw [← toFloat_magnitude value, zero]
    cases isNegative value <;> decide

theorem plainZero_of_zero {value : Float} (zero : magnitude value = 0) : plainZero value = 0 :=
  if_pos ((beq_zero_iff value).mpr zero)

theorem whole?_zero {value : Float} (zero : magnitude value = 0) : whole? value = some 0 := by
  unfold whole?
  rw [zero, units_zero, Nat.zero_mod, Nat.zero_div, if_pos ⟨by decide, rfl⟩]
  cases isNegative value <;> rfl

theorem whole?_quotient {value : Float} {number : Int} (whole : whole? value = some number) :
    magnitude value < infinity ∧ units (magnitude value) % unit = 0 ∧
      (if isNegative value then -((units (magnitude value) / unit : Nat) : Int)
        else (units (magnitude value) / unit : Nat)) = number := by
  unfold whole? at whole
  by_cases exactly : magnitude value < infinity ∧ units (magnitude value) % unit = 0
  · rw [if_pos exactly] at whole
    exact ⟨exactly.1, exactly.2, Option.some.inj whole⟩
  · rw [if_neg exactly] at whole
    cases whole

theorem whole?_some {value : Float} {number : Int} (whole : whole? value = some number) :
    magnitude value < infinity ∧ units (magnitude value) = number.natAbs * unit ∧
      number = if isNegative value then -(number.natAbs : Int) else number.natAbs := by
  obtain ⟨finite, exactly, said⟩ := whole?_quotient whole
  have size := Nat.div_mul_cancel (Nat.dvd_of_mod_eq_zero exactly)
  have natAbs : number.natAbs = units (magnitude value) / unit := by
    rw [← said]
    split
    · rw [Int.natAbs_neg, Int.natAbs_natCast]
    · rw [Int.natAbs_natCast]
  rw [natAbs]
  exact ⟨finite, size.symm, said.symm⟩

theorem plainZero_eq_of_whole {first second : Float} {number : Int}
    (firstWhole : whole? first = some number) (secondWhole : whole? second = some number) :
    plainZero first = plainZero second := by
  obtain ⟨firstFinite, firstUnits, firstSign⟩ := whole?_some firstWhole
  obtain ⟨secondFinite, secondUnits, secondSign⟩ := whole?_some secondWhole
  have size : magnitude first = magnitude second :=
    units_inj firstFinite secondFinite (firstUnits.trans secondUnits.symm)
  by_cases zero : number.natAbs = 0
  · have none : magnitude first = 0 := by
      apply units_inj firstFinite (by decide)
      rw [firstUnits, zero, Nat.zero_mul, units_zero]
    rw [plainZero_of_zero none, plainZero_of_zero (size ▸ none)]
  · have sign : isNegative first = isNegative second := by
      cases firstNegative : isNegative first <;> cases secondNegative : isNegative second <;>
        simp only [firstNegative, secondNegative, if_true, Bool.false_eq_true, if_false]
          at firstSign secondSign ⊢ <;>
        omega
    rw [← toFloat_magnitude first, ← toFloat_magnitude second, size, sign]

end Binary64

def displayedNumber (value : Float) : Number :=
  match Binary64.whole? value with
  | some number => if number.natAbs < wholeLimit then .whole number else .real value
  | none => .real value

theorem displayedNumber_cases (value : Float) :
    (∃ number, Binary64.whole? value = some number ∧ number.natAbs < wholeLimit ∧
      displayedNumber value = .whole number ∧ displayNumber (some value) = toString number) ∨
    (displayedNumber value = .real value ∧
      displayNumber (some value) = Layout.plain.write value) := by
  unfold displayedNumber displayNumber
  dsimp only
  cases whole : Binary64.whole? value with
  | none => exact .inr ⟨rfl, rfl⟩
  | some number =>
      by_cases small : number.natAbs < wholeLimit
      · exact .inl ⟨number, rfl, small, if_pos small, if_pos small⟩
      · exact .inr ⟨if_neg small, if_neg small⟩

theorem denotes_displayNumber {value : Float} (finite : value.isFinite = true) :
    Denotes (displayNumber (some value)).toList (displayedNumber value) := by
  rcases displayedNumber_cases value with ⟨number, _, small, said, shown⟩ | ⟨said, shown⟩
  · have short : (Decimal.digits number.natAbs).length ≤ 16 :=
      (Nat.length_toDigits_le_iff (by decide) (by decide)).mpr small
    rw [said, shown]
    exact denotes_toString (Nat.le_trans short (by decide))
  · rw [said, shown]
    exact denotes_write finite

theorem plainZero_eq_of_displayed {first second : Float}
    (same : displayedNumber first = displayedNumber second) :
    Binary64.plainZero first = Binary64.plainZero second := by
  rcases displayedNumber_cases first with ⟨number, firstWhole, _, firstSaid, _⟩ | ⟨firstSaid, _⟩ <;>
  rcases displayedNumber_cases second with ⟨other, secondWhole, _, secondSaid, _⟩ | ⟨secondSaid, _⟩ <;>
  rw [firstSaid, secondSaid] at same <;> cases same
  · exact Binary64.plainZero_eq_of_whole firstWhole secondWhole
  · rfl

theorem displayNumber_zero {value : Float} (zero : Binary64.magnitude value = 0) :
    displayNumber (some value) = "0" := by
  unfold displayNumber
  dsimp only
  rw [Binary64.whole?_zero zero]
  dsimp only
  rw [if_pos (by decide)]
  rfl

theorem displayNumber_plainZero (value : Option Float) :
    displayNumber (value.map Binary64.plainZero) = displayNumber value := by
  cases value with
  | none => rfl
  | some number =>
      by_cases zero : (number == 0) = true
      · have none : Binary64.magnitude number = 0 := (Binary64.beq_zero_iff number).mp zero
        have noneOfZero : Binary64.magnitude 0 = 0 := by decide
        rw [Option.map_some, Binary64.plainZero_of_zero none, displayNumber_zero none,
          displayNumber_zero noneOfZero]
      · rw [Option.map_some, Binary64.plainZero, if_neg zero]

/-! ### Displayed trees -/

def endMarks : List Char := [')', '+', '−', '×', '÷']

/-- What can follow a displayed tree that is a part of a larger one. -/
def EndsTerm : List Char → Prop
  | [] => True
  | first :: _ => first ∈ endMarks

theorem EndsTerm.endsNumber {rest : List Char} (ends : EndsTerm rest) : EndsNumber rest := by
  cases rest with
  | nil => trivial
  | cons first after =>
      revert ends
      simp only [EndsTerm, endMarks, EndsNumber, List.mem_cons, List.not_mem_nil, or_false]
      rintro (rfl | rfl | rfl | rfl | rfl) <;> decide

theorem arithmetic_binary {symbol : String} {apply : Float → Float → Option Float}
    (known : Operator.binary symbol apply ∈ Operator.arithmetic) :
    (symbol, apply) ∈ [("+", Operator.sum), ("−", Operator.difference), ("×", Operator.product),
      ("÷", Operator.quotient)] := by
  simpa [Operator.arithmetic] using known

theorem arithmetic_unary {symbol : String} {apply : Float → Option Float}
    (known : Operator.unary symbol apply ∈ Operator.arithmetic) :
    symbol = "√" ∧ apply = Operator.squareRoot := by
  simpa [Operator.arithmetic] using known

theorem symbol_cancel {first second : String}
    {firstApply secondApply : Float → Float → Option Float}
    (firstKnown : Operator.binary first firstApply ∈ Operator.arithmetic)
    (secondKnown : Operator.binary second secondApply ∈ Operator.arithmetic)
    {firstRest secondRest : List Char}
    (same : first.toList ++ firstRest = second.toList ++ secondRest) :
    first = second ∧ firstApply = secondApply ∧ firstRest = secondRest := by
  have firstCases := arithmetic_binary firstKnown
  have secondCases := arithmetic_binary secondKnown
  simp only [List.mem_cons, List.not_mem_nil, or_false, Prod.mk.injEq] at firstCases secondCases
  rcases firstCases with ⟨rfl, rfl⟩ | ⟨rfl, rfl⟩ | ⟨rfl, rfl⟩ | ⟨rfl, rfl⟩ <;>
  rcases secondCases with ⟨rfl, rfl⟩ | ⟨rfl, rfl⟩ | ⟨rfl, rfl⟩ | ⟨rfl, rfl⟩ <;>
  simp_all

theorem endsTerm_symbol {symbol : String} {apply : Float → Float → Option Float}
    (known : Operator.binary symbol apply ∈ Operator.arithmetic) (rest : List Char) :
    EndsTerm (symbol.toList ++ rest) := by
  have cases := arithmetic_binary known
  simp only [List.mem_cons, List.not_mem_nil, or_false, Prod.mk.injEq] at cases
  rcases cases with ⟨rfl, rfl⟩ | ⟨rfl, rfl⟩ | ⟨rfl, rfl⟩ | ⟨rfl, rfl⟩ <;> simp [EndsTerm, endMarks]

namespace Tree

/-- Trees whose text can be told from what follows it. A binary operator without a left operand is
without a right one too, so that both show as missing. -/
inductive Legible : Tree → Prop
  | absent : Legible absent
  | operand {value : Option Float} :
      (∀ number, value = some number → number.isFinite = true) → Legible (.operand value)
  | unary {symbol : String} {apply : Float → Option Float} {inner : Tree} :
      Operator.unary symbol apply ∈ Operator.arithmetic → Legible inner →
        Legible (node (.operator (.unary symbol apply)) inner absent)
  | binary {symbol : String} {apply : Float → Float → Option Float} {left right : Tree} :
      Operator.binary symbol apply ∈ Operator.arithmetic → Legible left → Legible right →
      (left = absent → right = absent) →
        Legible (node (.operator (.binary symbol apply)) left right)

inductive Lead where
  | missing
  | value
  | before
  | between
deriving DecidableEq

def Lead.ofChar (first : Char) : Lead :=
  if first = '?' then missing else if first = '√' then before else if first = '(' then between
  else value

def lead : Tree → Lead
  | absent => .missing
  | node .blank _ _ => .value
  | node (.operand _) _ _ => .value
  | node (.operator (.unary _ _)) _ _ => .before
  | node (.operator (.binary _ _)) _ _ => .between

theorem text_unary_absent (symbol : String) (apply : Float → Option Float) (rest : List Char) :
    (node (.operator (.unary symbol apply)) absent absent).render.toList ++ rest =
      symbol.toList ++ rest := by
  rw [render, if_neg (by decide)]

theorem text_unary (symbol : String) (apply : Float → Option Float) {inner : Tree}
    (present : inner.isPresent = true) (rest : List Char) :
    (node (.operator (.unary symbol apply)) inner absent).render.toList ++ rest =
      symbol.toList ++ (inner.render.toList ++ rest) := by
  rw [render, if_pos present, String.toList_append, List.append_assoc]

theorem text_binary (symbol : String) (apply : Float → Float → Option Float) {left right : Tree}
    (filled : left = absent → right = absent) (rest : List Char) :
    (node (.operator (.binary symbol apply)) left right).render.toList ++ rest =
      '(' :: (left.render.toList ++ (symbol.toList ++ (right.render.toList ++ ')' :: rest))) := by
  have text : (node (.operator (.binary symbol apply)) left right).render =
      "(" ++ left.render ++ symbol ++ right.render ++ ")" := by
    cases left with
    | absent =>
        rw [filled rfl]
        rfl
    | node content inner other => rfl
  rw [text]
  simp only [String.toList_append, List.append_assoc]
  rfl

structure Opens (first : Char) (lead : Lead) : Prop where
  lead : Lead.ofChar first = lead
  fresh : first ∉ endMarks

theorem Opens.of_isDigit {first : Char} (digit : first.isDigit = true) : Opens first .value := by
  constructor
  · rw [Lead.ofChar, if_neg (ne_of_isDigit digit rfl), if_neg (ne_of_isDigit digit rfl),
      if_neg (ne_of_isDigit digit rfl)]
  · intro mark
    simp only [endMarks, List.mem_cons, List.not_mem_nil, or_false] at mark
    rcases mark with rfl | rfl | rfl | rfl | rfl <;> cases digit

theorem displayNumber_opens {value : Option Float}
    (finite : ∀ number, value = some number → number.isFinite = true) :
    ∃ first rest, (displayNumber value).toList = first :: rest ∧ Opens first .value := by
  cases value with
  | none => exact ⟨'_', [], rfl, rfl, by decide⟩
  | some number =>
      obtain ⟨first, rest, digit, start⟩ := (denotes_displayNumber (finite number rfl)).start
      rcases start with plain | signed
      · exact ⟨first, rest, plain, .of_isDigit digit⟩
      · exact ⟨'-', first :: rest, signed, rfl, by decide⟩

theorem Legible.opens {tree : Tree} (legible : tree.Legible) (rest : List Char) :
    ∃ first others, tree.render.toList ++ rest = first :: others ∧ Opens first tree.lead := by
  cases legible with
  | absent => exact ⟨'?', rest, rfl, rfl, by decide⟩
  | operand finite =>
      obtain ⟨first, others, text, opens⟩ := displayNumber_opens finite
      exact ⟨first, others ++ rest, congrArg (· ++ rest) text, opens⟩
  | @unary symbol apply inner known whole =>
      obtain ⟨rfl, _⟩ := arithmetic_unary known
      cases inner with
      | absent =>
          rw [text_unary_absent]
          exact ⟨'√', rest, rfl, rfl, by decide⟩
      | node content left right =>
          rw [text_unary _ _ rfl]
          exact ⟨'√', _, rfl, rfl, by decide⟩
  | binary known left right filled =>
      rw [text_binary _ _ filled]
      exact ⟨'(', _, rfl, rfl, by decide⟩

theorem Legible.lead_eq {first second : Tree} (firstLegible : first.Legible)
    (secondLegible : second.Legible) {firstRest secondRest : List Char}
    (same : first.render.toList ++ firstRest = second.render.toList ++ secondRest) :
    first.lead = second.lead := by
  obtain ⟨firstChar, _, firstText, firstOpens⟩ := firstLegible.opens firstRest
  obtain ⟨secondChar, _, secondText, secondOpens⟩ := secondLegible.opens secondRest
  rw [firstText, secondText] at same
  rw [← firstOpens.lead, ← secondOpens.lead, (List.cons.inj same).1]

theorem Legible.not_endsTerm {tree : Tree} (legible : tree.Legible) (rest : List Char) :
    ¬ EndsTerm (tree.render.toList ++ rest) := by
  obtain ⟨first, others, text, opens⟩ := legible.opens rest
  rw [text]
  exact opens.fresh

end Tree

theorem Denotes.ne_placeholder {text : List Char} {number : Number}
    (denotes : Denotes text number) (rest others : List Char) :
    text ++ rest ≠ placeholder.toList ++ others := by
  obtain ⟨first, after, digit, plain | signed⟩ := denotes.start
  · intro same
    rw [plain] at same
    cases same
    cases digit
  · intro same
    rw [signed] at same
    cases same

theorem displayNumber_cancel {first second : Option Float}
    (firstFinite : ∀ number, first = some number → number.isFinite = true)
    (secondFinite : ∀ number, second = some number → number.isFinite = true)
    {firstRest secondRest : List Char} (firstEnds : EndsNumber firstRest)
    (secondEnds : EndsNumber secondRest)
    (same : (displayNumber first).toList ++ firstRest =
      (displayNumber second).toList ++ secondRest) :
    first.map Binary64.plainZero = second.map Binary64.plainZero ∧ firstRest = secondRest := by
  cases first with
  | none =>
      cases second with
      | none => exact ⟨rfl, List.append_cancel_left same⟩
      | some other =>
          have denotes := denotes_displayNumber (secondFinite other rfl)
          exact absurd same.symm (denotes.ne_placeholder secondRest firstRest)
  | some number =>
      have denotes := denotes_displayNumber (firstFinite number rfl)
      cases second with
      | none => exact absurd same (denotes.ne_placeholder firstRest secondRest)
      | some other =>
          have otherDenotes := denotes_displayNumber (secondFinite other rfl)
          obtain ⟨said, rest⟩ := denotes.cancel otherDenotes firstEnds secondEnds same
          rw [Option.map_some, Option.map_some, plainZero_eq_of_displayed said]
          exact ⟨rfl, rest⟩

def Content.withPlainZero : Content → Content
  | .operand value => .operand (value.map Binary64.plainZero)
  | content => content

namespace Tree

def withPlainZeros : Tree → Tree
  | absent => absent
  | node content left right =>
    node content.withPlainZero left.withPlainZeros right.withPlainZeros

/-- After the symbol of a unary operator stands its operand, if it has one. -/
theorem Legible.unary_cancel {inner other : Tree} (legible : inner.Legible)
    (otherLegible : other.Legible) {symbol : String} {apply : Float → Option Float}
    {firstRest secondRest : List Char} (firstEnds : EndsTerm firstRest)
    (secondEnds : EndsTerm secondRest)
    (same : (node (.operator (.unary symbol apply)) inner Tree.absent).render.toList ++
        firstRest =
      (node (.operator (.unary symbol apply)) other Tree.absent).render.toList ++ secondRest) :
    (inner = Tree.absent ∧ other = Tree.absent ∧ firstRest = secondRest) ∨
      inner.render.toList ++ firstRest = other.render.toList ++ secondRest := by
  -- Without an operand the symbol ends the text, and no operand begins with an end mark.
  cases inner with
  | absent =>
      rw [text_unary_absent] at same
      cases other with
      | absent =>
          rw [text_unary_absent] at same
          exact .inl ⟨rfl, rfl, List.append_cancel_left same⟩
      | node content left right =>
          rw [text_unary _ _ rfl] at same
          rw [List.append_cancel_left same] at firstEnds
          exact absurd firstEnds (otherLegible.not_endsTerm secondRest)
  | node content left right =>
      rw [text_unary _ _ rfl] at same
      cases other with
      | absent =>
          rw [text_unary_absent] at same
          rw [← List.append_cancel_left same] at secondEnds
          exact absurd secondEnds (legible.not_endsTerm firstRest)
      | node otherContent otherLeft otherRight =>
          rw [text_unary _ _ rfl] at same
          exact .inr (List.append_cancel_left same)

/-- What follows a displayed tree begins where its own text ends. -/
theorem Legible.cancel {first second : Tree} (firstLegible : first.Legible)
    (secondLegible : second.Legible) {firstRest secondRest : List Char}
    (firstEnds : EndsTerm firstRest) (secondEnds : EndsTerm secondRest)
    (same : first.render.toList ++ firstRest = second.render.toList ++ secondRest) :
    first.withPlainZeros = second.withPlainZeros ∧ firstRest = secondRest := by
  have alike := firstLegible.lead_eq secondLegible same
  induction firstLegible generalizing second firstRest secondRest with
  | absent =>
      cases secondLegible with
      | absent => exact ⟨rfl, List.append_cancel_left same⟩
      | _ => cases alike
  | @operand value finite =>
      cases secondLegible with
      | @operand other otherFinite =>
          obtain ⟨values, rest⟩ := displayNumber_cancel finite otherFinite firstEnds.endsNumber
            secondEnds.endsNumber same
          refine ⟨?_, rest⟩
          simp only [Tree.operand, withPlainZeros, Content.withPlainZero, values]
      | _ => cases alike
  | @unary symbol apply inner known whole hypothesis =>
      cases secondLegible with
      | @unary otherSymbol otherApply other otherKnown otherWhole =>
          obtain ⟨rfl, rfl⟩ := arithmetic_unary known
          obtain ⟨rfl, rfl⟩ := arithmetic_unary otherKnown
          rcases whole.unary_cancel otherWhole firstEnds secondEnds same with
            ⟨rfl, rfl, rest⟩ | inside
          · exact ⟨rfl, rest⟩
          · obtain ⟨trees, rest⟩ := hypothesis otherWhole firstEnds secondEnds inside
              (whole.lead_eq otherWhole inside)
            exact ⟨congrArg (node _ · Tree.absent) trees, rest⟩
      | _ => cases alike
  | @binary symbol apply left right known leftLegible rightLegible filled leftHypothesis
      rightHypothesis =>
      cases secondLegible with
      | @binary otherSymbol otherApply otherLeft otherRight otherKnown otherLeftLegible
          otherRightLegible otherFilled =>
          rw [text_binary _ _ filled, text_binary _ _ otherFilled] at same
          have inside := (List.cons.inj same).2
          obtain ⟨leftTrees, fromSymbol⟩ := leftHypothesis otherLeftLegible
            (endsTerm_symbol known _) (endsTerm_symbol otherKnown _) inside
            (leftLegible.lead_eq otherLeftLegible inside)
          obtain ⟨rfl, rfl, fromRight⟩ := symbol_cancel known otherKnown fromSymbol
          have closed (rest : List Char) : EndsTerm (')' :: rest) := List.mem_cons_self
          obtain ⟨rightTrees, rest⟩ := rightHypothesis otherRightLegible (closed firstRest)
            (closed secondRest) fromRight (rightLegible.lead_eq otherRightLegible fromRight)
          refine ⟨?_, (List.cons.inj rest).2⟩
          rw [withPlainZeros, leftTrees, rightTrees, withPlainZeros]
      | _ => cases alike

theorem Complete.legible {tree : Tree} (complete : tree.Complete)
    (admitted : tree.Admitted .standard) : tree.Legible := by
  induction complete with
  | operand value => exact .operand admitted.1
  | unary symbol apply inner hypothesis => exact .unary admitted.1 (hypothesis admitted.2.1)
  | binary symbol apply left right leftHypothesis rightHypothesis =>
      refine .binary admitted.1 (leftHypothesis admitted.2.1) (rightHypothesis admitted.2.2) ?_
      rintro rfl
      cases left

/-- A blank root as an operand that lacks its value. -/
def withoutBlank : Tree → Tree
  | node .blank left right => node (.operand none) left right
  | tree => tree

theorem Complete.withoutBlank {tree : Tree} (complete : tree.Complete) :
    tree.withoutBlank = tree := by
  cases complete <;> rfl

theorem render_withoutBlank (tree : Tree) : tree.withoutBlank.render = tree.render := by
  match tree with
  | absent => rfl
  | node .blank left right => rfl
  | node (.operand _) left right => rfl
  | node (.operator _) left right => rfl

theorem Growing.legible {tree : Tree} (growing : tree.Growing)
    (admitted : tree.Admitted .standard) : tree.withoutBlank.Legible := by
  cases growing with
  | blank =>
      apply Legible.operand
      intro number impossible
      cases impossible
  | bare op =>
      cases op with
      | unary symbol apply => exact .unary admitted.1 .absent
      | binary symbol apply => exact .binary admitted.1 .absent .absent fun _ => rfl
  | half symbol apply left =>
      exact .binary admitted.1 (left.legible admitted.2.1) .absent fun _ => rfl
  | complete whole =>
      rw [whole.withoutBlank]
      exact whole.legible admitted

theorem render_withPlainZeros (tree : Tree) : tree.withPlainZeros.render = tree.render := by
  induction tree with
  | absent => rfl
  | node content left right leftHypothesis rightHypothesis =>
      have present : left.withPlainZeros.isPresent = left.isPresent := by
        cases left <;> rfl
      match content with
      | .blank => rfl
      | .operand value => exact displayNumber_plainZero value
      | .operator (.unary symbol apply) =>
          simp only [withPlainZeros, Content.withPlainZero, render, present, leftHypothesis]
      | .operator (.binary symbol apply) =>
          simp only [withPlainZeros, Content.withPlainZero, render, present, leftHypothesis,
            rightHypothesis]

end Tree

namespace Session

def Has (session : Session) (tree : Tree) : Prop :=
  session.tree = tree ∨ ∃ slot, session.memory.get slot = some tree

theorem legible_of_has {inputLimit : Int} {verbose : Bool} {actions : List Action} {tree : Tree}
    (has : ((start .standard inputLimit verbose).run actions).Has tree) :
    tree.withoutBlank.Legible := by
  have sound := reachable_sound .standard inputLimit verbose actions
  have admitted := reachable_admitted .standard inputLimit verbose actions
  rcases has with rfl | ⟨slot, held⟩
  · exact sound.growing.legible admitted.live
  · exact (Tree.Growing.complete (sound.stored slot tree held)).legible
      (admitted.stored slot tree held)

/-- The text on the display tells the tree: two trees of sessions with the standard operators look
alike only if they are equal node by node, where a blank root counts as an operand that lacks its
value and a negative zero as a positive one. -/
theorem display_tells_tree (firstLimit secondLimit : Int) (firstVerbose secondVerbose : Bool)
    (firstActions secondActions : List Action) (first second : Tree)
    (firstHas : ((start .standard firstLimit firstVerbose).run firstActions).Has first)
    (secondHas : ((start .standard secondLimit secondVerbose).run secondActions).Has second) :
    first.render = second.render ↔
      first.withoutBlank.withPlainZeros = second.withoutBlank.withPlainZeros := by
  constructor
  · intro same
    have texts : first.withoutBlank.render.toList ++ [] =
        second.withoutBlank.render.toList ++ [] := by
      rw [Tree.render_withoutBlank, Tree.render_withoutBlank, same]
    have ends : EndsTerm [] := trivial
    exact ((legible_of_has firstHas).cancel (legible_of_has secondHas) ends ends texts).1
  · intro alike
    rw [← first.render_withoutBlank, ← second.render_withoutBlank,
      ← first.withoutBlank.render_withPlainZeros, alike, Tree.render_withPlainZeros]

theorem zeros_look_alike :
    let positive := (start .standard 12 false).run [.type ['0']]
    let negative := (start .standard 12 false).run [.sign, .type ['0']]
    positive.Has positive.tree ∧ negative.Has negative.tree ∧
      positive.tree.render = negative.tree.render := by
  intro positive negative
  have alike : positive.tree.withoutBlank.withPlainZeros =
      negative.tree.withoutBlank.withPlainZeros := rfl
  have positiveHas : positive.Has positive.tree := .inl rfl
  have negativeHas : negative.Has negative.tree := .inl rfl
  exact ⟨positiveHas, negativeHas,
    (display_tells_tree 12 12 false false _ _ _ _ positiveHas negativeHas).mpr alike⟩

end Session
end DeskCalculator
