import MidiConsole.Switchboard.Exchange

namespace MidiConsole

/-- What waits for a device: its name, the steps that it carries out when the
device arrives, and the fault that it ends with, if any. -/
inductive Target where
  | mk (name : String) (script : List (Step Target)) (fault : Option String)

namespace Target

def name : Target → String
  | mk name _ _ => name

def script : Target → List (Step Target)
  | mk _ script _ => script

def fault : Target → Option String
  | mk _ _ fault => fault

mutual

/-- The work that a target causes: each of its steps, and its fault. -/
def weight : Target → Nat
  | mk _ script _ => scriptWeight script + 1

def scriptWeight : List (Step Target) → Nat
  | [] => 0
  | step :: steps => stepWeight step + scriptWeight steps

def stepWeight : Step Target → Nat
  | ⟨_, command⟩ => commandWeight command + 2

def commandWeight : Command Target → Nat
  | .prepare _ target => target.weight
  | _ => 0

end

end Target

end MidiConsole
