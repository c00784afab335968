import MidiConsole.Direction
import MidiConsole.Engine.Basic
import MidiConsole.Handle
import MidiConsole.Listing
import MidiConsole.Port
import MidiConsole.Proofs.Agreement
import MidiConsole.Proofs.Course
import MidiConsole.Proofs.Delivery
import MidiConsole.Proofs.Flattening
import MidiConsole.Proofs.Inertness
import MidiConsole.Proofs.Interruption
import MidiConsole.Proofs.Lock
import MidiConsole.Proofs.Relays
import MidiConsole.Proofs.Sameness
import MidiConsole.Proofs.Separation
import MidiConsole.Proofs.StepCourse
import MidiConsole.Proofs.Termination
import MidiConsole.Relay.Recorder
import MidiConsole.Screen.Display
import MidiConsole.Switchboard.Dispatch
import MidiConsole.Proofs.Requests
import MidiConsole.Proofs.Happenings
import MidiConsole.Proofs.Showing
import MidiConsole.Proofs.Watching
import MidiConsole.Proofs.Refreshing
import MidiConsole.Proofs.Answering
import MidiConsole.Proofs.Lines
import MidiConsole.Proofs.Rendering
import MidiConsole.Proofs.Telling
import MidiConsole.Proofs.Forwarding
import MidiConsole.Proofs.Verdicts
import MidiConsole.Proofs.FirstStart
import MidiConsole.Proofs.Drawing
import MidiConsole.Proofs.Naming
