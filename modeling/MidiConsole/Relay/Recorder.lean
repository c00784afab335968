import MidiConsole.Relay.Basic
import MidiConsole.Script

namespace MidiConsole

open Text

/-- A device that was passed on, and what came with it. -/
structure Forwarding where
  device : Device
  handle : Handle
  direction : Direction
  deriving DecidableEq

/-- Relays that pass their devices on to one scripted receiver. -/
structure Recorder where
  results : Script (Except OpenError Unit)
  relays : List Relay

namespace Recorder

/-- One relay, and the results that the receiver gives. After these it takes
every device. -/
def start (relay : Relay) (results : List (Answer (Except OpenError Unit))) : Recorder :=
  { results := Script.ofList results (.returns (.ok ())), relays := [relay] }

inductive Command where
  | deliver (device : Option Device)
  | forward (forwarding : Forwarding)
  | describe
  | clone
  | inspect
  deriving DecidableEq

inductive Reply where
  | opened (result : Except OpenError Unit)
  | relay (relay : Relay)
  | cloned (index : Nat)
  | text (text : String)
  | noRelay

abbrev Act (α : Type) : Type :=
  Journaled Forwarding Recorder α

def forward (device : Device) (handle : Handle) (direction : Direction) :
    Act (Except OpenError Unit) :=
  Journaled.within results (fun results recorder => { recorder with results })
    (Script.ask ⟨device, handle, direction⟩)

def addRelay (relay : Relay) (recorder : Recorder) : Recorder :=
  { recorder with relays := recorder.relays ++ [relay] }

def performOn (relay : Relay) : Command → Act Reply
  | .deliver device => Reply.opened <$> relay.deliver forward device
  | .forward forwarding =>
      Reply.opened <$> forward forwarding.device forwarding.handle forwarding.direction
  | .describe => pure (.relay relay)
  | .clone => do
      let index ← Journaled.reading fun recorder => recorder.relays.length
      Journaled.update (addRelay relay)
      pure (.cloned index)
  | .inspect => pure (.text (relay.inspect (.atom "Recorder")).compact)

def perform (index : Nat) (command : Command) : Act Reply := do
  match ← Journaled.reading fun recorder => recorder.relays[index]? with
  | none => pure .noRelay
  | some relay => performOn relay command

end Recorder

end MidiConsole
