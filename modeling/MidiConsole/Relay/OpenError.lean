import MidiConsole.Notice

namespace MidiConsole

open Text

/-- Why a device was not handed over. -/
inductive OpenError where
  | notOpened (handle : Handle) (direction : Direction)
  | invalidHandle (handle : Handle)
  | unknownHandle (handle : Handle)
  | directionMismatch (handle : Handle) (expected actual : Direction)
  deriving DecidableEq

namespace OpenError

def handle : OpenError → Handle
  | notOpened handle _ => handle
  | invalidHandle handle => handle
  | unknownHandle handle => handle
  | directionMismatch handle _ _ => handle

def message : OpenError → String
  | notOpened handle direction =>
      "failed to open MIDI " ++ direction.name ++ " device for " ++ toString handle
  | invalidHandle handle => "invalid handle " ++ toString handle
  | unknownHandle handle => "no pending open request for " ++ toString handle
  | directionMismatch handle expected actual =>
      "opened MIDI " ++ actual.name ++ " device does not match the pending "
        ++ expected.name ++ " request for " ++ toString handle

instance : Formatted OpenError :=
  ⟨fun _ error => error.message⟩

def notice (direction : Direction) : OpenError → Notice
  | notOpened handle expected => .openFailed expected handle
  | invalidHandle handle => .invalidHandle direction handle
  | unknownHandle handle => .unknownHandle handle
  | directionMismatch handle expected actual => .directionMismatch handle expected actual

def inspect : OpenError → Inspection
  | notOpened handle direction =>
      .record "NotOpened"
        [("handle", handle.inspect), ("direction", direction.inspect)] true
  | invalidHandle handle => .record "InvalidHandle" [("handle", handle.inspect)] true
  | unknownHandle handle => .record "UnknownHandle" [("handle", handle.inspect)] true
  | directionMismatch handle expected actual =>
      .record "DirectionMismatch"
        [("handle", handle.inspect), ("expected", expected.inspect),
         ("actual", actual.inspect)]
        true

end OpenError

end MidiConsole
