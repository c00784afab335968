import MidiConsole.Text.Inspection

namespace MidiConsole

open Text

/-- Why the system below a backend could not be set up, by the texts that the
system gives of it. -/
structure InitError where
  message : String
  inspection : String
  deriving DecidableEq

/-- Why a backend gave no ports. -/
inductive SourceError where
  | unavailable (detail : String)
  | init (error : InitError)
  deriving DecidableEq

namespace SourceError

def message : SourceError → String
  | unavailable detail => "backend unavailable: " ++ detail
  | init error => error.message

def inspect : SourceError → Inspection
  | unavailable detail => .record "Unavailable" [("msg", .text detail)] true
  | init error => .tuple "Init" [.atom error.inspection]

end SourceError

end MidiConsole
