import MidiConsole.Listing
import MidiConsole.Script

namespace MidiConsole

open Text

/-- A question to a source of listings or to the backend behind it. -/
inductive Query where
  | versions
  | listings
  | backends
  | inputs
  | outputs
  deriving DecidableEq

/-- Which ports there are, or why that is not known. -/
abbrev PortAnswer : Type :=
  Except SourceError (List Port)

/-- A backend, by its answers. -/
structure Backend where
  names : Script String
  inputs : Script PortAnswer
  outputs : Script PortAnswer

namespace Backend

def askName : Journaled Query Backend String :=
  Journaled.within names (fun names backend => { backend with names }) (Script.ask .backends)

def askInputs : Journaled Query Backend PortAnswer :=
  Journaled.within inputs (fun inputs backend => { backend with inputs }) (Script.ask .inputs)

def askOutputs : Journaled Query Backend PortAnswer :=
  Journaled.within outputs (fun outputs backend => { backend with outputs })
    (Script.ask .outputs)

def giveUp (listed : String) (error : SourceError) : Journaled Query Backend String := do
  Journaled.log (.listingFailed error)
  pure (listed ++ "Error: " ++ error.message ++ "\n")

def listedInputs (inputs : List Port) : String :=
  Listing.inputHeader ++ Listing.inputBody inputs ++ Listing.outputHeader

/-- Ask for the ports of both directions and list them. After an error the
backend is asked no more. -/
def survey : Journaled Query Backend String := do
  match ← askInputs with
  | .error error => giveUp Listing.inputHeader error
  | .ok inputs =>
      match ← askOutputs with
      | .error error => giveUp (listedInputs inputs) error
      | .ok outputs => do
          Journaled.log (.listed inputs.length outputs.length)
          pure (listedInputs inputs ++ Listing.outputBody outputs)

def version : Journaled Query Backend String := do
  let name ← askName
  pure (Product.name ++ " " ++ Product.version ++ " (" ++ name ++ ")")

def inspect : Inspection :=
  .record "ObservingProvider" [("observer", .atom "ScriptedObserver")] true

inductive Command where
  | survey
  | version
  | name
  | inspect
  deriving DecidableEq

def perform : Command → Journaled Query Backend String
  | .survey => survey
  | .version => version
  | .name => askName
  | .inspect => pure inspect.compact

end Backend

end MidiConsole
