import MidiConsole.Journal
import MidiConsole.Relay.OpenError

namespace MidiConsole

open Text

/-- An opened device, known by its name. -/
abbrev Device : Type :=
  String

/-- The handle and the direction of a request that waits for its device. -/
structure Relay where
  handle : Handle
  direction : Direction
  deriving DecidableEq

namespace Relay

def inspect (relay : Relay) (binding : Inspection) : Inspection :=
  .record "DeviceOpenRelay"
    [("handle", relay.handle.inspect), ("direction", relay.direction.inspect),
     ("binding", binding)]
    true

variable {ν σ ρ : Type}

/-- Report to the relay that a device has been opened, or that none could be.
Only an opened device is passed on. -/
def deliver (relay : Relay)
    (forward : Device → Handle → Direction → Journaled ν σ (Except OpenError ρ)) :
    Option Device → Journaled ν σ (Except OpenError ρ)
  | none => do
      Journaled.log (.openFailed relay.direction relay.handle)
      pure (.error (.notOpened relay.handle relay.direction))
  | some device => do
      Journaled.log (.opened relay.direction relay.handle)
      forward device relay.handle relay.direction

end Relay

end MidiConsole
