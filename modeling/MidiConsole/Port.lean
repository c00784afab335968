import MidiConsole.Text.Field
import MidiConsole.Text.Inspection

namespace MidiConsole

open Text

/-- What a backend reports about a port. -/
structure Port where
  number : Nat
  name : String
  deviceName : Option String := none
  displayName : Option String := none
  deriving DecidableEq

namespace Port

def withDeviceName (port : Port) (deviceName : String) : Port :=
  { port with deviceName := some deviceName }

def withDisplayName (port : Port) (displayName : String) : Port :=
  { port with displayName := some displayName }

/-- The name, unless it is empty or repeats the name of the port. -/
def distinct (port : Port) (name : Option String) : Option String :=
  name.filter fun name => name ≠ "" && name ≠ port.name

def bracketed (opening closing : String) : Option String → String
  | none => ""
  | some name => opening ++ name ++ closing

def line (port : Port) : String :=
  "Port " ++ toString port.number ++ ": " ++ port.name
    ++ bracketed " (Device: " ")" (port.distinct port.deviceName)
    ++ bracketed " [" "]" (port.distinct port.displayName)

instance : ToString Port :=
  ⟨line⟩

instance : Formatted Port :=
  ⟨fun _ port => port.line⟩

def inspect (port : Port) : Inspection :=
  .record "MidiPortInfo"
    [("number", .number port.number),
     ("port_name", .text port.name),
     ("device_name", .option (port.deviceName.map .text)),
     ("display_name", .option (port.displayName.map .text))]
    true

end Port

end MidiConsole
