import MidiConsole.Text.Field
import MidiConsole.Text.Inspection

namespace MidiConsole

open Text

/-- The direction of a device, seen from the host. -/
inductive Direction where
  | input
  | output
  deriving DecidableEq

namespace Direction

def name : Direction → String
  | input => "input"
  | output => "output"

instance : ToString Direction :=
  ⟨name⟩

instance : Formatted Direction :=
  ⟨fun field direction => field.fill direction.name⟩

def inspect : Direction → Inspection
  | input => .atom "Input"
  | output => .atom "Output"

def ofIsOutput (isOutput : Bool) : Direction :=
  if isOutput then output else input

def isOutput (direction : Direction) : Bool :=
  direction = output

/-- A walk over the directions that can take from both ends. -/
structure Traversal where
  remaining : List Direction
  deriving DecidableEq

namespace Traversal

def start : Traversal :=
  ⟨[input, output]⟩

inductive Move where
  | next
  | nextBack
  | nth (skipped : Nat)
  deriving DecidableEq

/-- Take a direction from the front or from the back. Skipping more than is
left uses up the walk. -/
def move (walk : Traversal) : Move → Option Direction × Traversal
  | .next => (walk.remaining.head?, ⟨walk.remaining.tail⟩)
  | .nextBack => (walk.remaining.getLast?, ⟨walk.remaining.dropLast⟩)
  | .nth skipped => (walk.remaining[skipped]?, ⟨walk.remaining.drop (skipped + 1)⟩)

def inspect (walk : Traversal) : Inspection :=
  .record "PortDirectionIter" [("len", .number walk.remaining.length)] true

def history : Traversal → List Move → List (Option Direction × Traversal)
  | _, [] => []
  | walk, m :: moves =>
      let taken := walk.move m
      taken :: history taken.2 moves

end Traversal

end Direction

end MidiConsole
