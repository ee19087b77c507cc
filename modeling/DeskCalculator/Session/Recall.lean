import DeskCalculator.Session.Basic

/-! Memory keys of a session. Only a complete tree is stored. A verbose session reports what each key
did. -/

namespace DeskCalculator.Session

structure Reply (α : Type) where
  session : Session
  answer : α
  lines : List String

def report (session : Session) (line : String) : List String :=
  if session.verbose then [line] else []

def invalidSlotText (request : SlotRequest) : String :=
  "⚠ Ranura de memoria inválida: " ++ request.shown

def slotText (request : SlotRequest) (text : String) : String :=
  "M" ++ request.shown ++ ": " ++ text

def store (session : Session) (request : SlotRequest) : Reply Bool :=
  match request.slot? with
  | none => ⟨session, false, session.report (invalidSlotText request)⟩
  | some slot =>
    if session.tree.isComplete then
      ⟨{ session with memory := session.memory.set slot (some session.tree) slot.isLt }, true,
        session.report (slotText request ("Añadido " ++ session.tree.render))⟩
    else ⟨session, false, session.report (slotText request "Nada añadido")⟩

def fetch (session : Session) (request : SlotRequest) : Reply (Option Tree) :=
  match request.slot? with
  | none => ⟨session, none, session.report (invalidSlotText request)⟩
  | some slot =>
    match session.memory.get slot with
    | none => ⟨session, none, session.report (slotText request "Vacío")⟩
    | some tree =>
      ⟨session, some tree, session.report (slotText request ("Encontrado " ++ tree.render))⟩

def clear (session : Session) (request : SlotRequest) : Reply Bool :=
  match request.slot? with
  | none => ⟨session, false, session.report (invalidSlotText request)⟩
  | some slot =>
    let held := (session.memory.get slot).isSome
    ⟨{ session with memory := session.memory.set slot none slot.isLt }, held,
      session.report (slotText request (if held then "Borrado" else "Vacío"))⟩

end DeskCalculator.Session
