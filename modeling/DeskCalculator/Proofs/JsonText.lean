import DeskCalculator.Proofs.JsonString
import DeskCalculator.Proofs.NumberText

/-! Written data. What is written of a value is read back as the same value, if the members of each of
its objects have different names; and what is read has them. -/

namespace DeskCalculator.Json

/-! ### Values -/

/-- The text is read as the value, whatever follows it. -/
structure Reads (text : List Char) (value : Json) : Prop where
  start : ∃ first rest, text = first :: rest ∧ isSpace first = false ∧ first ≠ ']'
  noReturn : '\r' ∉ text
  read : ∀ fuel rest, text.length ≤ fuel → EndsNumber rest →
    readValue fuel (text ++ rest) = .ok (value, rest)

theorem reads_null : Reads "null".toList null := by
  refine ⟨⟨'n', _, rfl, rfl, by decide⟩, by decide, ?_⟩
  intro fuel rest enough ends
  cases fuel with
  | zero => simp at enough
  | succ fuel => rfl

theorem reads_bool (value : Bool) :
    Reads (if value then "true".toList else "false".toList) (bool value) := by
  cases value with
  | false =>
      refine ⟨⟨'f', _, rfl, rfl, by decide⟩, by decide, ?_⟩
      intro fuel rest enough ends
      cases fuel with
      | zero => simp at enough
      | succ fuel => rfl
  | true =>
      refine ⟨⟨'t', _, rfl, rfl, by decide⟩, by decide, ?_⟩
      intro fuel rest enough ends
      cases fuel with
      | zero => simp at enough
      | succ fuel => rfl

theorem readValue_digit {first : Char} (digit : first.isDigit = true) (fuel : Nat)
    (rest : List Char) :
    readValue (fuel + 1) (first :: rest) =
      (readSigned (first :: rest)).map fun (value, rest) => (.number value, rest) := by
  rw [readSigned_digit digit, readValue]
  -- No other value begins with a digit.
  all_goals
    intro after same
    cases same
    cases digit

theorem readValue_minus {first : Char} (digit : first.isDigit = true) (fuel : Nat)
    (rest : List Char) :
    readValue (fuel + 1) ('-' :: first :: rest) =
      (readSigned ('-' :: first :: rest)).map fun (value, rest) => (.number value, rest) := by
  rw [readSigned_minus, readValue]
  intro after same
  cases same
  cases digit

theorem Reads.of_denotes {text : List Char} {value : Number} (denotes : Denotes text value) :
    Reads text (number value) := by
  obtain ⟨first, others, digit, plain | signed⟩ := denotes.start
  · refine ⟨⟨first, others, plain, isSpace_of_isDigit digit, ne_of_isDigit digit rfl⟩, ?_, ?_⟩
    · intro member
      cases denotes.spaceless '\r' member
    · intro fuel rest enough ends
      cases fuel with
      | zero => simp [plain] at enough
      | succ fuel =>
          have read := denotes.read rest ends
          rw [plain, List.cons_append] at read ⊢
          rw [readValue_digit digit, read]
          rfl
  · refine ⟨⟨'-', first :: others, signed, by decide, by decide⟩, ?_, ?_⟩
    · intro member
      cases denotes.spaceless '\r' member
    · intro fuel rest enough ends
      cases fuel with
      | zero => simp [signed] at enough
      | succ fuel =>
          have read := denotes.read rest ends
          rw [signed, List.cons_append, List.cons_append] at read ⊢
          rw [readValue_minus digit, read]
          rfl

theorem reads_undefined : Reads "NaN".toList (real Binary64.undefined) := by
  refine ⟨⟨'N', _, rfl, rfl, by decide⟩, by decide, ?_⟩
  intro fuel rest enough ends
  cases fuel with
  | zero => simp at enough
  | succ fuel => rfl

theorem reads_infinity (negative : Bool) :
    Reads ((if negative then "-" else "") ++ "Infinity").toList
      (real (Binary64.toFloat negative Binary64.infinity)) := by
  cases negative with
  | false =>
      refine ⟨⟨'I', _, rfl, rfl, by decide⟩, by decide, ?_⟩
      intro fuel rest enough ends
      cases fuel with
      | zero => simp at enough
      | succ fuel => rfl
  | true =>
      refine ⟨⟨'-', _, rfl, rfl, by decide⟩, by decide, ?_⟩
      intro fuel rest enough ends
      cases fuel with
      | zero => simp at enough
      | succ fuel => rfl

theorem reads_real (value : Float) : Reads (layout.write value).toList (real value) := by
  rcases Nat.lt_trichotomy (Binary64.magnitude value) Binary64.infinity with
    finite | infinite | undefined
  · have same : layout.write value = Layout.plain.write value := by
      simp only [Layout.write, if_neg (Nat.lt_asymm finite), if_neg (Nat.ne_of_lt finite)]
      rfl
    rw [same]
    exact .of_denotes (denotes_write ((Binary64.isFinite_iff value).mpr finite))
  · have same : value = Binary64.toFloat (Binary64.isNegative value) Binary64.infinity := by
      rw [← infinite, Binary64.toFloat_magnitude]
    have text : layout.write value =
        (if Binary64.isNegative value then "-" else "") ++ "Infinity" := by
      simp only [Layout.write, if_neg (Nat.not_lt_of_le (Nat.le_of_eq infinite)), if_pos infinite]
      rfl
    have read := reads_infinity (Binary64.isNegative value)
    rw [← text, ← same] at read
    exact read
  · have text : layout.write value = "NaN" := if_pos undefined
    rw [text, Binary64.eq_undefined undefined]
    exact reads_undefined

theorem reads_number {value : Number} {text : List Char}
    (written : Written [numberPiece value] text) : Reads text (number value) := by
  cases value with
  | real value =>
      have content : text = (layout.write value).toList := written.text
      rw [content]
      exact reads_real value
  | whole value =>
      unfold numberPiece at written
      dsimp only at written
      split at written
      · exact absurd written not_written_overlong
      · rename_i short
        have content : text = (toString value).toList := written.text
        rw [content]
        exact .of_denotes (denotes_toString (Nat.le_of_not_lt short))

theorem reads_string {value : CodeText} {text : List Char}
    (written : Written [.text (writtenString value)] text) : Reads text (string value) := by
  obtain ⟨characters, rfl, rfl⟩ := written.string
  refine ⟨⟨'"', _, rfl, rfl, by decide⟩, ?_, ?_⟩
  · intro member
    simp only [List.mem_cons, List.mem_append, List.mem_flatMap, Char.reduceEq, List.not_mem_nil,
      or_false, false_or] at member
    obtain ⟨character, _, inside⟩ := member
    exact return_not_mem_escapedCharacter character inside
  · intro fuel rest enough ends
    cases fuel with
    | zero => simp at enough
    | succ fuel =>
        rw [List.cons_append, List.append_assoc, readValue, List.singleton_append,
          readString_text]
        rfl

/-! ### Items and members -/

def breakLine (level : Nat) : List Char :=
  '\n' :: List.replicate (4 * level) ' '

theorem skipSpace_start {text : List Char}
    (start : ∃ first rest, text = first :: rest ∧ isSpace first = false) (rest : List Char) :
    skipSpace (text ++ rest) = text ++ rest := by
  obtain ⟨first, others, rfl, visible⟩ := start
  rw [skipSpace, List.cons_append, List.dropWhile_cons_of_neg]
  rw [visible]
  decide

theorem skipSpace_breakLine (level : Nat) (rest : List Char) :
    skipSpace (breakLine level ++ rest) = skipSpace rest := by
  apply List.dropWhile_append_of_pos
  intro character member
  rcases List.mem_cons.mp member with rfl | blank
  · decide
  · rw [List.eq_of_mem_replicate blank]
    decide

theorem return_not_mem_breakLine (level : Nat) : '\r' ∉ breakLine level := by
  intro member
  rcases List.mem_cons.mp member with impossible | blank
  · cases impossible
  · cases List.eq_of_mem_replicate blank

/-- What follows a value inside another one. -/
theorem endsNumber_breakLine (level : Nat) (rest : List Char) :
    EndsNumber (breakLine level ++ rest) :=
  ⟨rfl, by decide, by decide, by decide⟩

theorem endsNumber_comma (rest : List Char) : EndsNumber (',' :: rest) :=
  ⟨rfl, by decide, by decide, by decide⟩

structure ReadsItems (body : List Char) (items : List Json) : Prop where
  start : ∃ first rest, body = first :: rest ∧ isSpace first = false ∧ first ≠ ']'
  noReturn : '\r' ∉ body
  read : ∀ fuel level rest, body.length < fuel →
    readItems fuel (body ++ (breakLine level ++ ']' :: rest)) = .ok (items, rest)

theorem ReadsItems.single {text : List Char} {item : Json} (reads : Reads text item) :
    ReadsItems text [item] := by
  refine ⟨reads.start, reads.noReturn, ?_⟩
  intro fuel level rest enough
  cases fuel with
  | zero => simp at enough
  | succ fuel =>
      have value := reads.read fuel (breakLine level ++ ']' :: rest) (Nat.le_of_lt_succ enough)
        (endsNumber_breakLine level _)
      have closing : skipSpace (breakLine level ++ ']' :: rest) = ']' :: rest :=
        skipSpace_breakLine level _
      simp only [readItems, value, closing]

theorem ReadsItems.cons {text body : List Char} {item : Json} {items : List Json}
    (reads : Reads text item) (others : ReadsItems body items) (inner : Nat) :
    ReadsItems (text ++ ',' :: (breakLine inner ++ body)) (item :: items) := by
  refine ⟨?_, ?_, ?_⟩
  · obtain ⟨first, rest, rfl, visible, open_⟩ := reads.start
    exact ⟨first, _, rfl, visible, open_⟩
  · have first := reads.noReturn
    have second := others.noReturn
    have between := return_not_mem_breakLine inner
    simp [first, second, between]
  · intro fuel level rest enough
    simp only [List.length_append, List.length_cons] at enough
    cases fuel with
    | zero => omega
    | succ fuel =>
        have value := reads.read fuel
          (',' :: (breakLine inner ++ (body ++ (breakLine level ++ ']' :: rest)))) (by omega)
          (endsNumber_comma _)
        have visible : ∃ first rest, body = first :: rest ∧ isSpace first = false := by
          obtain ⟨first, after, same, plain, _⟩ := others.start
          exact ⟨first, after, same, plain⟩
        have after := others.read fuel level rest (by omega)
        have comma (text : List Char) : skipSpace (',' :: text) = ',' :: text := rfl
        simp only [List.append_assoc, List.cons_append]
        simp only [readItems, value, comma, skipSpace_breakLine, skipSpace_start visible, after]
        rfl

theorem Reads.visible {text : List Char} {value : Json} (reads : Reads text value) :
    ∃ first rest, text = first :: rest ∧ isSpace first = false := by
  obtain ⟨first, rest, same, plain, _⟩ := reads.start
  exact ⟨first, rest, same, plain⟩

theorem ReadsItems.list {body : List Char} {items : List Json} (reads : ReadsItems body items)
    (level : Nat) :
    Reads ('[' :: (breakLine (level + 1) ++ (body ++ (breakLine level ++ [']'])))) (list items) := by
  refine ⟨⟨'[', _, rfl, rfl, by decide⟩, ?_, ?_⟩
  · have inside := reads.noReturn
    have before := return_not_mem_breakLine (level + 1)
    have after := return_not_mem_breakLine level
    simp [inside, before, after]
  · intro fuel rest enough ends
    simp only [List.length_append, List.length_cons, List.length_nil] at enough
    cases fuel with
    | zero => omega
    | succ fuel =>
        have items := reads.read fuel level rest (by omega)
        obtain ⟨first, others, same, plain, notClosing⟩ := reads.start
        have opened : skipSpace (breakLine (level + 1) ++
            (body ++ (breakLine level ++ ']' :: rest))) =
              body ++ (breakLine level ++ ']' :: rest) := by
          rw [skipSpace_breakLine, skipSpace_start ⟨first, others, same, plain⟩]
        simp only [List.cons_append, List.append_assoc, List.nil_append]
        rw [readValue, opened]
        split
        · rename_i after closed
          rw [same] at closed
          cases closed
          exact absurd rfl notClosing
        · rw [items]
          rfl

/-- The members of an object, from the first name to the end of the last value. The members read
before them have other names. -/
structure ReadsMembers (body : List Char) (members : Entries CodeText Json) : Prop where
  start : ∃ rest, body = '"' :: rest
  noReturn : '\r' ∉ body
  read : ∀ fuel level rest (earlier : Entries CodeText Json), body.length < fuel →
    (earlier ++ members).names.Nodup →
    readMembers fuel (body ++ (breakLine level ++ '\x7d' :: rest)) earlier =
      .ok (earlier ++ members, rest)

def nameText (name : List Char) : List Char :=
  '"' :: (name.flatMap escapedCharacter ++ ['"', ':', ' '])

theorem readName_nameText (name : List Char) {text : List Char}
    (start : ∃ first rest, text = first :: rest ∧ isSpace first = false) (rest : List Char) :
    readName (nameText name ++ (text ++ rest)) = .ok (CodeText.ofList name, text ++ rest) := by
  have colon : skipSpace (':' :: ' ' :: (text ++ rest)) = ':' :: ' ' :: (text ++ rest) := rfl
  have value : skipSpace (' ' :: (text ++ rest)) = text ++ rest := skipSpace_start start rest
  simp only [nameText, List.cons_append, List.append_assoc, List.nil_append, readName,
    readString_text, colon, value]

theorem return_not_mem_nameText (name : List Char) : '\r' ∉ nameText name := by
  intro member
  simp only [nameText, List.mem_cons, List.mem_append, List.mem_flatMap, Char.reduceEq,
    List.not_mem_nil, or_false, false_or] at member
  obtain ⟨character, _, inside⟩ := member
  exact return_not_mem_escapedCharacter character inside

theorem ReadsMembers.single {text name : List Char} {value : Json} (reads : Reads text value) :
    ReadsMembers (nameText name ++ text) [(CodeText.ofList name, value)] := by
  refine ⟨⟨_, rfl⟩, ?_, ?_⟩
  · have first := return_not_mem_nameText name
    have second := reads.noReturn
    simp [first, second]
  · intro fuel level rest earlier enough apart
    rw [List.length_append] at enough
    cases fuel with
    | zero => omega
    | succ fuel =>
        have read := reads.read fuel (breakLine level ++ '\x7d' :: rest) (by omega)
          (endsNumber_breakLine level _)
        have closing : skipSpace (breakLine level ++ '\x7d' :: rest) = '\x7d' :: rest :=
          skipSpace_breakLine level _
        simp only [List.append_assoc]
        simp only [readMembers, readName_nameText name reads.visible, read, closing,
          Entries.put_of_nodup apart]

theorem ReadsMembers.cons {text name body : List Char} {value : Json}
    {members : Entries CodeText Json} (reads : Reads text value)
    (others : ReadsMembers body members) (inner : Nat) :
    ReadsMembers (nameText name ++ (text ++ ',' :: (breakLine inner ++ body)))
      ((CodeText.ofList name, value) :: members) := by
  refine ⟨⟨_, rfl⟩, ?_, ?_⟩
  · have first := return_not_mem_nameText name
    have second := reads.noReturn
    have between := return_not_mem_breakLine inner
    have last := others.noReturn
    simp [first, second, between, last]
  · intro fuel level rest earlier enough apart
    simp only [List.length_append, List.length_cons] at enough
    cases fuel with
    | zero => omega
    | succ fuel =>
        have read := reads.read fuel
          (',' :: (breakLine inner ++ (body ++ (breakLine level ++ '\x7d' :: rest)))) (by omega)
          (endsNumber_comma _)
        have visible : ∃ first rest, body = first :: rest ∧ isSpace first = false := by
          obtain ⟨after, same⟩ := others.start
          exact ⟨'"', after, same, rfl⟩
        have later : (earlier ++ [(CodeText.ofList name, value)] ++ members).names.Nodup := by
          rw [List.append_assoc]
          exact apart
        have after := others.read fuel level rest _ (by omega) later
        have comma (text : List Char) : skipSpace (',' :: text) = ',' :: text := rfl
        simp only [List.append_assoc, List.cons_append]
        simp only [readMembers, readName_nameText name reads.visible, read, comma,
          skipSpace_breakLine, skipSpace_start visible, Entries.put_of_nodup apart]
        rw [after, List.append_assoc]
        rfl

theorem ReadsMembers.object {body : List Char} {members : Entries CodeText Json}
    (reads : ReadsMembers body members) (apart : members.names.Nodup) (level : Nat) :
    Reads ('\x7b' :: (breakLine (level + 1) ++ (body ++ (breakLine level ++ ['\x7d']))))
      (object members) := by
  refine ⟨⟨'\x7b', _, rfl, rfl, by decide⟩, ?_, ?_⟩
  · have inside := reads.noReturn
    have before := return_not_mem_breakLine (level + 1)
    have after := return_not_mem_breakLine level
    simp [inside, before, after]
  · intro fuel rest enough ends
    simp only [List.length_append, List.length_cons, List.length_nil] at enough
    cases fuel with
    | zero => omega
    | succ fuel =>
        have members := reads.read fuel level rest [] (by omega) apart
        obtain ⟨others, same⟩ := reads.start
        have opened : skipSpace (breakLine (level + 1) ++
            (body ++ (breakLine level ++ '\x7d' :: rest))) =
              body ++ (breakLine level ++ '\x7d' :: rest) := by
          rw [skipSpace_breakLine, skipSpace_start ⟨'"', others, same, rfl⟩]
        simp only [List.cons_append, List.append_assoc, List.nil_append]
        rw [readValue, opened]
        split
        · rename_i after closed
          rw [same] at closed
          cases closed
        · rw [members]
          rfl

/-! ### What is written -/

inductive Distinct : Json → Prop
  | null : Distinct null
  | bool (value : Bool) : Distinct (bool value)
  | number (value : Number) : Distinct (number value)
  | string (value : CodeText) : Distinct (string value)
  | list {items : List Json} : (∀ item ∈ items, Distinct item) → Distinct (list items)
  | object {members : Entries CodeText Json} : members.names.Nodup →
      (∀ member ∈ members, Distinct member.2) → Distinct (object members)

theorem pieces_single {value : Json} (plain : value.isNested = false) (level : Nat) :
    ∃ piece, pieces level value = [piece] := by
  match value with
  | .null => exact ⟨_, rfl⟩
  | .bool true => exact ⟨_, rfl⟩
  | .bool false => exact ⟨_, rfl⟩
  | .number value => exact ⟨_, rfl⟩
  | .string value => exact ⟨_, rfl⟩

theorem Written.ledTo {lead : List Char} {value : Json} {level : Nat} {text : List Char}
    (written : Written (ledTo (CodeText.ofList lead) value.isNested (pieces level value)) text) :
    ∃ after, text = lead ++ after ∧ Written (pieces level value) after := by
  unfold Json.ledTo at written
  cases nested : value.isNested with
  | true =>
      rw [nested, if_pos rfl] at written
      obtain ⟨before, after, rfl, first, second⟩ := @Written.split [_] _ _ written
      exact ⟨after, by rw [first.text], second⟩
  | false =>
      obtain ⟨piece, same⟩ := pieces_single nested level
      rw [nested, if_neg Bool.false_ne_true, same] at written
      rw [same]
      cases piece with
      | overlong => exact absurd written not_written_overlong
      | text content =>
          have whole := written.single
          obtain ⟨before, after, rfl, start, finish⟩ := List.map_eq_append_iff.mp whole.symm
          have head : before = lead := ofList_injective start
          refine ⟨after, by rw [head], ?_⟩
          rw [← finish]
          have single := Written.cons after .nil
          rw [List.append_nil] at single
          exact single

theorem Written.items {level : Nat} {lead : List Char} {item : Json} {rest : List Json}
    {text : List Char}
    (written : Written (itemPieces level (CodeText.ofList lead) (item :: rest)) text) :
    ∃ first after, text = lead ++ (breakLine level ++ (first ++ after)) ∧
      Written (pieces level item) first ∧
      Written (itemPieces level (CodeText.ofList [',']) rest) after := by
  obtain ⟨before, after, rfl, start, others⟩ := Written.split written
  have led : CodeText.ofList lead ++ newLine level =
      CodeText.ofList (lead ++ breakLine level) := (ofList_append lead (breakLine level)).symm
  rw [led] at start
  obtain ⟨first, rfl, value⟩ := start.ledTo
  exact ⟨first, after, by simp only [List.append_assoc], value, others⟩

theorem Written.members {level : Nat} {lead : List Char} {name : CodeText} {value : Json}
    {rest : List (CodeText × Json)} {text : List Char}
    (written : Written (memberPieces level (CodeText.ofList lead) ((name, value) :: rest)) text) :
    ∃ characters first after, name = CodeText.ofList characters ∧
      text = lead ++ (breakLine level ++ (nameText characters ++ (first ++ after))) ∧
      Written (pieces level value) first ∧
      Written (memberPieces level (CodeText.ofList [',']) rest) after := by
  obtain ⟨before, after, rfl, start, others⟩ := Written.split written
  obtain ⟨opening, first, rfl, named, value⟩ := Written.split start
  obtain ⟨led, afterLead, rfl, leads, naming⟩ := @Written.split [_] _ _ named
  obtain ⟨quoted, colon, rfl, names, colons⟩ := @Written.split [_] _ _ naming
  have leadText : led = lead ++ breakLine level := by
    have content : CodeText.ofList lead ++ newLine level =
        CodeText.ofList (lead ++ breakLine level) := (ofList_append lead (breakLine level)).symm
    rw [content] at leads
    exact leads.text
  obtain ⟨characters, rfl, rfl⟩ := names.string
  have colonText : colon = [':', ' '] := @Written.text [':', ' '] colon colons
  refine ⟨characters, first, after, rfl, ?_, value, others⟩
  rw [leadText, colonText]
  simp only [nameText, List.append_assoc, List.cons_append, List.nil_append]

theorem reads_items {level : Nat} {items : List Json}
    (reads : ∀ item ∈ items, ∀ text, Written (pieces level item) text → Reads text item)
    (present : items ≠ []) {lead text : List Char}
    (written : Written (itemPieces level (CodeText.ofList lead) items) text) :
    ∃ body, text = lead ++ (breakLine level ++ body) ∧ ReadsItems body items := by
  induction items generalizing lead text with
  | nil => exact absurd rfl present
  | cons item rest inductionHypothesis =>
      obtain ⟨first, after, rfl, value, others⟩ := written.items
      have firstReads := reads item List.mem_cons_self first value
      cases rest with
      | nil =>
          cases others
          exact ⟨first, by rw [List.append_nil], .single firstReads⟩
      | cons next more =>
          have restReads : ∀ item ∈ next :: more, ∀ text,
              Written (pieces level item) text → Reads text item := by
            intro item member
            exact reads item (List.mem_cons_of_mem _ member)
          obtain ⟨body, rfl, bodyReads⟩ :=
            inductionHypothesis restReads (List.cons_ne_nil next more) others
          exact ⟨_, rfl, .cons firstReads bodyReads level⟩

theorem reads_members {level : Nat} {members : Entries CodeText Json}
    (reads : ∀ member ∈ members, ∀ text, Written (pieces level member.2) text →
      Reads text member.2)
    (present : members ≠ []) {lead text : List Char}
    (written : Written (memberPieces level (CodeText.ofList lead) members) text) :
    ∃ body, text = lead ++ (breakLine level ++ body) ∧ ReadsMembers body members := by
  induction members generalizing lead text with
  | nil => exact absurd rfl present
  | cons member rest inductionHypothesis =>
      obtain ⟨name, value⟩ := member
      obtain ⟨characters, first, after, rfl, rfl, written, others⟩ := written.members
      have firstReads := reads (_, value) List.mem_cons_self first written
      cases rest with
      | nil =>
          cases others
          exact ⟨_, by rw [List.append_nil], .single firstReads⟩
      | cons next more =>
          have restReads : ∀ member ∈ next :: more, ∀ text,
              Written (pieces level member.2) text → Reads text member.2 := by
            intro member inside
            exact reads member (List.mem_cons_of_mem _ inside)
          obtain ⟨body, rfl, bodyReads⟩ :=
            inductionHypothesis restReads (List.cons_ne_nil next more) others
          exact ⟨_, rfl, .cons firstReads bodyReads level⟩

theorem reads_empty_list : Reads "[]".toList (list []) := by
  refine ⟨⟨'[', _, rfl, rfl, by decide⟩, by decide, ?_⟩
  intro fuel rest enough ends
  cases fuel with
  | zero => simp at enough
  | succ fuel => rfl

theorem reads_empty_object : Reads "\x7b\x7d".toList (object []) := by
  refine ⟨⟨'\x7b', _, rfl, rfl, by decide⟩, by decide, ?_⟩
  intro fuel rest enough ends
  cases fuel with
  | zero => simp at enough
  | succ fuel => rfl

theorem Written.closed {pieces : List Piece} {level : Nat} {close : Char} {text : List Char}
    (written : Written (pieces ++ [.text (newLine level), .text (CodeText.ofList [close])]) text) :
    ∃ before, text = before ++ (breakLine level ++ [close]) ∧ Written pieces before := by
  obtain ⟨before, after, rfl, inside, closing⟩ := Written.split written
  obtain ⟨line, last, rfl, lines, closes⟩ := @Written.split [_] _ _ closing
  have lineText : line = breakLine level := @Written.text (breakLine level) line lines
  have lastText : last = [close] := @Written.text [close] last closes
  rw [lineText, lastText]
  exact ⟨before, rfl, inside⟩

/-- The text of a value at any level of nesting is read as this value. -/
theorem Distinct.reads {value : Json} (distinct : value.Distinct) {level : Nat} {text : List Char}
    (written : Written (pieces level value) text) : Reads text value := by
  -- The predicate follows the value; inner values are written one level deeper.
  induction distinct generalizing level text with
  | null =>
      rw [@Written.text "null".toList text written]
      exact reads_null
  | bool value =>
      cases value with
      | false =>
          rw [@Written.text "false".toList text written]
          exact reads_bool false
      | true =>
          rw [@Written.text "true".toList text written]
          exact reads_bool true
  | number value => exact reads_number written
  | string value => exact reads_string written
  | @list items distinct inductionHypothesis =>
      cases items with
      | nil =>
          rw [@Written.text "[]".toList text written]
          exact reads_empty_list
      | cons item rest =>
          obtain ⟨before, rfl, inside⟩ := @Written.closed _ level ']' text written
          obtain ⟨body, rfl, reads⟩ := @reads_items (level + 1) _
            (fun item member text written => inductionHypothesis item member written)
            (List.cons_ne_nil item rest) ['['] _ inside
          have whole := reads.list level
          simp only [List.append_assoc, List.cons_append, List.nil_append] at whole ⊢
          exact whole
  | @object members apart distinct inductionHypothesis =>
      cases members with
      | nil =>
          rw [@Written.text "\x7b\x7d".toList text written]
          exact reads_empty_object
      | cons member rest =>
          obtain ⟨before, rfl, inside⟩ := @Written.closed _ level '\x7d' text written
          obtain ⟨body, rfl, reads⟩ := @reads_members (level + 1) _
            (fun member inside text written => inductionHypothesis member inside written)
            (List.cons_ne_nil member rest) ['\x7b'] _ inside
          have whole := reads.object apart level
          simp only [List.append_assoc, List.cons_append, List.nil_append] at whole ⊢
          exact whole

theorem Reads.whole {text : List Char} {value : Json} (reads : Reads text value) :
    Json.read text = .ok value := by
  have start := skipSpace_start reads.visible []
  have enough : text.length ≤ 2 * text.length + 2 := by omega
  have value := reads.read (2 * text.length + 2) [] enough trivial
  rw [List.append_nil] at start value
  rw [Json.read, start, value]
  rfl

/-- A value that was encoded without a fault is decoded as itself. -/
theorem ofFile_encode {value : Json} (distinct : value.Distinct) {bytes : List UInt8}
    (encoded : encode value = (bytes, none)) :
    ∃ text, Text.ofFile bytes = .ok text ∧ Json.read text = .ok value := by
  obtain ⟨text, written, rfl⟩ := written_of_encodePieces encoded
  have reads := distinct.reads written
  exact ⟨text, Text.ofFile_encode reads.noReturn, reads.whole⟩

/-! ### What is read -/

theorem Distinct.names_nodup {members : Entries CodeText Json}
    (distinct : (Json.object members).Distinct) : members.names.Nodup := by
  cases distinct with
  | object apart inside => exact apart

theorem Distinct.member {members : Entries CodeText Json}
    (distinct : (Json.object members).Distinct) {name : CodeText} {value : Json}
    (member : (name, value) ∈ members) : value.Distinct := by
  cases distinct with
  | object apart inside => exact inside _ member

theorem Distinct.object_put {members : Entries CodeText Json} {value : Json}
    (distinct : (Json.object members).Distinct) (new : value.Distinct) (name : CodeText) :
    (Json.object (members.put name value)).Distinct := by
  refine .object (Entries.nodup_put distinct.names_nodup name value) ?_
  intro member written
  rcases Entries.mem_put written with rfl | old
  · exact new
  · exact distinct.member old

theorem distinct_empty : (object []).Distinct := by
  apply Distinct.object
  · exact List.nodup_nil
  · intro member impossible
    cases impossible

theorem of_map_ok {ε α β : Type} {read : Except ε α} {change : α → β} {result : β}
    (done : read.map change = .ok result) : ∃ first, read = .ok first ∧ change first = result := by
  cases read with
  | error fault => cases done
  | ok first => exact ⟨first, rfl, Except.ok.inj done⟩

structure ReadsDistinct (fuel : Nat) : Prop where
  value : ∀ source value rest, readValue fuel source = .ok (value, rest) → value.Distinct
  items : ∀ source items rest, readItems fuel source = .ok (items, rest) → (list items).Distinct
  members : ∀ source earlier members rest, (object earlier).Distinct →
    readMembers fuel source earlier = .ok (members, rest) → (object members).Distinct

section
variable {fuel : Nat} (inside : ReadsDistinct fuel) {source rest : List Char}
include inside

theorem ReadsDistinct.readValue {value : Json}
    (read : Json.readValue (fuel + 1) source = .ok (value, rest)) : value.Distinct := by
  unfold Json.readValue at read
  split at read
  · obtain ⟨_, _, same⟩ := of_map_ok read
    cases same
    exact .string _
  · split at read
    · cases read
      exact distinct_empty
    · obtain ⟨⟨members, after⟩, done, same⟩ := of_map_ok read
      cases same
      exact inside.members _ _ _ _ distinct_empty done
  · split at read
    · cases read
      exact .list (by simp)
    · obtain ⟨⟨items, after⟩, done, same⟩ := of_map_ok read
      cases same
      exact inside.items _ _ _ done
  · cases read
    exact .null
  · cases read
    exact .bool true
  · cases read
    exact .bool false
  · cases read
    exact .number _
  · cases read
    exact .number _
  · cases read
    exact .number _
  · obtain ⟨_, _, same⟩ := of_map_ok read
    cases same
    exact .number _
  · obtain ⟨_, _, same⟩ := of_map_ok read
    cases same
    exact .number _

theorem ReadsDistinct.readItems {items : List Json}
    (read : Json.readItems (fuel + 1) source = .ok (items, rest)) : (list items).Distinct := by
  unfold Json.readItems at read
  split at read
  · cases read
  · rename_i item afterItem valued
    have first := inside.value _ _ _ valued
    split at read
    · cases read
      refine .list ?_
      intro item member
      rw [List.mem_singleton.mp member]
      exact first
    · obtain ⟨⟨others, after⟩, listed, same⟩ := of_map_ok read
      cases same
      cases inside.items _ _ _ listed with
      | list distinct =>
          refine .list ?_
          intro item member
          rcases List.mem_cons.mp member with rfl | other
          · exact first
          · exact distinct item other
    · cases read

theorem ReadsDistinct.readMembers {earlier members : Entries CodeText Json}
    (distinct : (object earlier).Distinct)
    (read : Json.readMembers (fuel + 1) source earlier = .ok (members, rest)) :
    (object members).Distinct := by
  unfold Json.readMembers at read
  split at read
  · cases read
  · rename_i name afterName named
    split at read
    · cases read
    · rename_i value afterValue valued
      have next := distinct.object_put (inside.value _ _ _ valued) name
      split at read
      · cases read
        exact next
      · exact inside.members _ _ _ _ next read
      · cases read

end

theorem readsDistinct (fuel : Nat) : ReadsDistinct fuel := by
  induction fuel with
  | zero =>
      constructor
      · intro source value rest read
        cases read
      · intro source items rest read
        cases read
      · intro source earlier members rest distinct read
        cases read
  | succ fuel inside =>
      constructor
      · intro source value rest read
        exact inside.readValue read
      · intro source items rest read
        exact inside.readItems read
      · intro source earlier members rest distinct read
        exact inside.readMembers distinct read

theorem distinct_of_whole {text : List Char} {value : Json} (read : Json.read text = .ok value) :
    value.Distinct := by
  unfold Json.read at read
  split at read
  · cases read
  · rename_i found rest done
    split at read
    · cases read
      exact (readsDistinct _).value _ _ _ done
    · cases read

end DeskCalculator.Json
