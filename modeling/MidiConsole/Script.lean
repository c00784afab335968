import MidiConsole.Journal

namespace MidiConsole

/-- What comes of a question: an answer, or a fault raised instead. -/
inductive Answer (α : Type) where
  | returns (value : α)
  | raises (text : String)
  deriving DecidableEq

/-- The answers to all questions, of which the first `asked` are used up. -/
structure Script (α : Type) where
  answer : Nat → Answer α
  asked : Nat := 0

namespace Script

variable {α ν : Type}

def ofList (answers : List (Answer α)) (later : Answer α) : Script α :=
  { answer := fun k => (answers[k]?).getD later }

/-- The answers of a list, the last of which is given for ever. With no answer
listed it is a given value. -/
def repeating (answers : List (Answer α)) (value : α) : Script α :=
  ofList answers (answers.getLast?.getD (.returns value))

def advance (script : Script α) : Script α :=
  { script with asked := script.asked + 1 }

def ask (question : ν) : Journaled ν (Script α) α := do
  Journaled.note question
  let script ← Journaled.state
  Journaled.update advance
  match script.answer script.asked with
  | .returns value => pure value
  | .raises text => Journaled.raise text

end Script

end MidiConsole
