import MidiConsole.Port

namespace MidiConsole.Listing

def inputHeader : String :=
  "=== MIDI Input Devices ===\n"

def outputHeader : String :=
  "\n=== MIDI Output Devices ===\n"

def noInputs : String :=
  "No input devices found"

def noOutputs : String :=
  "No output devices found"

/-- A line for each port, or the remark that there is none. -/
def body (remark : String) (ports : List Port) : String :=
  match ports with
  | [] => remark ++ "\n"
  | ports => String.join (ports.map fun port => port.line ++ "\n")

def inputBody (inputs : List Port) : String :=
  body noInputs inputs

def outputBody (outputs : List Port) : String :=
  body noOutputs outputs

def format (inputs outputs : List Port) : String :=
  inputHeader ++ inputBody inputs ++ outputHeader ++ outputBody outputs

end MidiConsole.Listing
