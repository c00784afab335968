import MidiConsole.Direction
import MidiConsole.Engine.Config
import MidiConsole.Handle
import MidiConsole.Source.Error

namespace MidiConsole

open Text

inductive Level where
  | error
  | warn
  | info
  | debug
  | trace
  deriving DecidableEq

/-- Something that happened and is worth a record in the log. -/
inductive Notice where
  | openFailed (direction : Direction) (handle : Handle)
  | opened (direction : Direction) (handle : Handle)
  | preparing (direction : Direction) (handle : Handle)
  | cancelled (handle : Handle)
  | dispatching (direction : Direction) (handle : Handle)
  | invalidHandle (direction : Direction) (handle : Handle)
  | unknownHandle (handle : Handle)
  | directionMismatch (handle : Handle) (expected actual : Direction)
  | listed (inputs outputs : Nat)
  | listingFailed (error : SourceError)
  | refreshed (devices : String)
  | started (config : EngineConfig)
  | configIgnored (active ignored : EngineConfig)
  deriving DecidableEq

namespace Notice

def level : Notice → Level
  | openFailed .. | invalidHandle .. | directionMismatch .. => .error
  | unknownHandle .. | listingFailed .. => .warn
  | opened .. | started .. => .info
  | preparing .. | cancelled .. | dispatching .. | listed .. | configIgnored .. => .debug
  | refreshed .. => .trace

def device (direction : Direction) : String :=
  "MIDI " ++ direction.name ++ " device"

def message : Notice → String
  | openFailed direction handle =>
      "Failed to open " ++ device direction ++ " for " ++ toString handle
  | opened direction handle =>
      device direction ++ " opened successfully for " ++ toString handle
  | preparing direction handle =>
      "Preparing to open " ++ device direction ++ " for " ++ toString handle
  | cancelled handle => "Cancelled pending open request for " ++ toString handle
  | dispatching direction handle =>
      "Dispatching opened " ++ device direction ++ " to " ++ toString handle
  | invalidHandle direction handle =>
      "Invalid handle " ++ toString handle ++ " for opened " ++ device direction
  | unknownHandle handle => "No pending open request for " ++ toString handle
  | directionMismatch handle expected actual =>
      "Opened " ++ device actual ++ " does not match the pending " ++ expected.name
        ++ " request for " ++ toString handle
  | listed inputs outputs =>
      "Listed " ++ toString inputs ++ " input and " ++ toString outputs ++ " output port(s)"
  | listingFailed error => "Failed to list MIDI devices: " ++ error.message
  | refreshed devices => "Refreshed device list: " ++ quote devices
  | started config =>
      "Initialized " ++ Product.name ++ " " ++ Product.version ++ " as \""
        ++ config.clientName ++ "\""
  | configIgnored active ignored =>
      "Library already initialized as \"" ++ active.clientName ++ "\": Ignoring "
        ++ ignored.inspect.compact

end Notice

end MidiConsole
