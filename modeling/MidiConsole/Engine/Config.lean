import MidiConsole.Product
import MidiConsole.Text.Inspection

namespace MidiConsole

open Text

/-- What an engine is started with: the name under which it registers its
clients. -/
structure EngineConfig where
  clientName : String := Product.name
  deriving DecidableEq

def EngineConfig.inspect (config : EngineConfig) : Inspection :=
  .record "LibraryConfig" [("client_name", .text config.clientName)] true

end MidiConsole
