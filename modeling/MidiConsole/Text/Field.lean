namespace MidiConsole.Text

inductive Side where
  | left
  | center
  | right
  deriving DecidableEq

/-- The room a text is written in. Without an alignment the text stands on the
left and spaces fill the room. -/
structure Field where
  alignment : Option (Char × Side) := none
  width : Nat := 0
  precision : Option Nat := none
  deriving DecidableEq

namespace Field

def filler (field : Field) : Char :=
  (field.alignment.map Prod.fst).getD ' '

def side (field : Field) : Side :=
  (field.alignment.map Prod.snd).getD .left

def kept (field : Field) (text : String) : List Char :=
  match field.precision with
  | none => text.toList
  | some n => text.toList.take n

/-- How much of the room goes before the text. Of an odd room around a
centered text the larger part follows it. -/
def before (field : Field) (room : Nat) : Nat :=
  match field.side with
  | .left => 0
  | .center => room / 2
  | .right => room

/-- Cut the text to the precision, then fill it up to the width. -/
def fill (field : Field) (text : String) : String :=
  let kept := field.kept text
  let room := field.width - kept.length
  let before := field.before room
  String.ofList
    (List.replicate before field.filler ++ kept ++
      List.replicate (room - before) field.filler)

end Field

class Formatted (α : Type) where
  format (field : Field) (value : α) : String

end MidiConsole.Text
