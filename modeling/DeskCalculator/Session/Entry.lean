import DeskCalculator.Session.Basic

/-! Typing numbers. The first key of a number grafts an operand onto the tree; every key after it
changes the characters and, with them, the value of the editable leaf. Characters that are no
number leave the leaf without a value. -/

namespace DeskCalculator.Session

def edit (session : Session) (characters : List Char) : Session :=
  { session with
    entry := some characters
    tree := session.tree.editLeaf (Numeral.finite? characters) }

def openOperand (session : Session) (value : Option Float) : Session :=
  { session with tree := session.tree.graft (.operand value) }

/-- The limit counts the characters that are there before the key, so a key may bring several. -/
def isFull (session : Session) (characters : List Char) : Bool :=
  session.inputLimit ≤ characters.length

/-- Adds characters to the number, or starts one. A full number refuses them, with no answer. -/
def type (session : Session) (typed : List Char) : Session × Option (List Char) :=
  match session.entry with
  | none => ((session.openOperand (Numeral.finite? typed)).edit typed, some typed)
  | some characters =>
    if session.isFull characters then (session, none)
    else (session.edit (characters ++ typed), some (characters ++ typed))

def typePoint (session : Session) : Session × Option (List Char) :=
  if (session.entry.getD []).contains '.' then (session, none)
  else session.type ['.']

/-- Adds or removes a sign at the head; the limit does not hold for it. -/
def toggleSign (session : Session) : Session :=
  match session.entry with
  | none => (session.openOperand none).edit ['-']
  | some ('-' :: rest) => session.edit rest
  | some characters => session.edit ('-' :: characters)

/-- Starts a number without characters; no number is being typed afterwards. A number that is being
typed and not full cannot take what is missing. -/
def typeNothing? (session : Session) : Option Session :=
  match session.entry with
  | none => some (session.openOperand none)
  | some characters => if session.isFull characters then some session else none

end DeskCalculator.Session
