import MidiConsole.Source.Backend

namespace MidiConsole

inductive Source where
  | plain (versions listings : Script String)
  | surveyed (backend : Backend)

namespace Source

def version : Journaled Query Source String := do
  match ← Journaled.state with
  | plain versions listings =>
      Journaled.within (fun _ => versions) (fun versions _ => plain versions listings)
        (Script.ask .versions)
  | surveyed backend =>
      Journaled.within (fun _ => backend) (fun backend _ => surveyed backend) Backend.version

def listing : Journaled Query Source String := do
  match ← Journaled.state with
  | plain versions listings =>
      Journaled.within (fun _ => listings) (fun listings _ => plain versions listings)
        (Script.ask .listings)
  | surveyed backend =>
      Journaled.within (fun _ => backend) (fun backend _ => surveyed backend) Backend.survey

end Source

end MidiConsole
