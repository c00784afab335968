namespace MidiConsole.Product

def name : String :=
  "midiscope"

def version : String :=
  "0.1.0"

end MidiConsole.Product
