import MidiConsole.Proofs.Course
import MidiConsole.Source.Basic

/-!
Surveys, by the stages that they pass. A stage is a question, which the backend may
meet with a fault, or a notice, at which the log may fail; the first fault ends the
survey.

The main statement is that a survey goes by the stages which the answers of its backend
lay down, and that the backend is left the same wherever the log fails.
-/

namespace MidiConsole

open Journaled

namespace Script

variable {α ν : Type}

def upcoming (script : Script α) : Answer α :=
  script.answer script.asked

theorem ask_apply (question : ν) (w : World ν (Script α)) :
    ask question w =
      match w.state.upcoming with
      | .returns value => .ok value ⟨w.state.advance, w.journal.add (.noted question)⟩
      | .raises text =>
          .error (.raised text) ⟨w.state.advance, w.journal.add (.noted question)⟩ := by
  simp only [ask, bind_apply, note_apply, state_apply, update_apply, upcoming]
  cases w.state.answer w.state.asked <;> rfl

end Script

/-- A point at which an action can be cut short. -/
inductive Stage where
  | asks (query : Query) (raised : Option String)
  | logs (notice : Notice)
  deriving DecidableEq

namespace Stage

def event : Stage → Event Query
  | asks query _ => .noted query
  | logs notice => .logged notice

def fault? (sink : Sink) (earlier : List Notice) : Stage → Option Fault
  | asks _ raised => raised.map .raised
  | logs notice => if sink earlier notice then some .sink else none

def notice? : Stage → Option Notice
  | asks _ _ => none
  | logs notice => some notice

/-- Pass stages up to the first fault. -/
def pass : List Stage → Journal Query → Option Fault × Journal Query
  | [], journal => (none, journal)
  | stage :: stages, journal =>
      match stage.fault? journal.sink journal.notices with
      | some fault => (some fault, journal.add stage.event)
      | none => pass stages (journal.add stage.event)

theorem pass_append (first second : List Stage) (journal : Journal Query) :
    pass (first ++ second) journal =
      match pass first journal with
      | (some fault, journal) => (some fault, journal)
      | (none, journal) => pass second journal := by
  induction first generalizing journal with
  | nil => rfl
  | cons stage first ih =>
      simp only [List.cons_append, pass]
      split
      · rfl
      · exact ih _

/-- No stage brings a fault, after given notices. -/
def Passable (sink : Sink) : List Notice → List Stage → Prop
  | _, [] => True
  | earlier, stage :: stages =>
      stage.fault? sink earlier = none ∧ Passable sink (earlier ++ stage.notice?.toList) stages

/-- How stages end under a log: all are passed, or one of them brings a fault and those
after it are not reached. -/
inductive Ends (sink : Sink) (earlier : List Notice) (stages : List Stage) :
    Option Fault → List (Event Query) → Prop
  | passed (h : Passable sink earlier stages) : Ends sink earlier stages none (stages.map event)
  | stopped (before after : List Stage) {stage : Stage} {fault : Fault}
      (hstages : stages = before ++ stage :: after) (hbefore : Passable sink earlier before)
      (hfault : stage.fault? sink (earlier ++ before.filterMap notice?) = some fault) :
      Ends sink earlier stages (some fault) ((before ++ [stage]).map event)

theorem Ends.cons {sink : Sink} {earlier : List Notice} {stage : Stage} {stages : List Stage}
    {fault : Option Fault} {events : List (Event Query)} (hstage : stage.fault? sink earlier = none)
    (h : Ends sink (earlier ++ stage.notice?.toList) stages fault events) :
    Ends sink earlier (stage :: stages) fault (stage.event :: events) := by
  rcases h with h | ⟨before, after, rfl, hbefore, hfault⟩
  · exact .passed ⟨hstage, h⟩
  · refine .stopped (stage :: before) after rfl ⟨hstage, hbefore⟩ ?_
    rw [List.append_assoc] at hfault
    cases stage <;> exact hfault

theorem notices_add_event (journal : Journal Query) (stage : Stage) :
    (journal.add stage.event).notices = journal.notices ++ stage.notice?.toList := by
  cases stage with
  | asks query raised => simp [event, notice?]
  | logs notice => exact Journal.notices_write journal notice

theorem ends_pass (stages : List Stage) (journal : Journal Query) :
    ∃ events, Ends journal.sink journal.notices stages (pass stages journal).1 events ∧
      (pass stages journal).2 = { journal with events := journal.events ++ events } := by
  induction stages generalizing journal with
  | nil => exact ⟨[], .passed trivial, by simp [pass]⟩
  | cons stage stages ih =>
      simp only [pass]
      cases hfault : stage.fault? journal.sink journal.notices with
      | some fault =>
          refine ⟨[stage.event], .stopped [] stages rfl trivial ?_, rfl⟩
          rwa [List.filterMap_nil, List.append_nil]
      | none =>
          obtain ⟨events, hends, hjournal⟩ := ih (journal.add stage.event)
          rw [notices_add_event] at hends
          refine ⟨stage.event :: events, hends.cons hfault, ?_⟩
          rw [hjournal, Journal.add, List.append_assoc]
          rfl

theorem pass_logs (notice : Notice) (journal : Journal Query) :
    pass [.logs notice] journal =
      (if journal.fails notice then some .sink else none, journal.write notice) := by
  rw [pass, fault?, ← Journal.fails]
  by_cases hfails : journal.fails notice
  · simp only [hfails, if_true]
    rfl
  · simp only [hfails]
    rfl

theorem log_pure_apply {σ α : Type} (notice : Notice) (a : α) (w : World Query σ) :
    (do log notice; pure a : Journaled Query σ α) w =
      match pass [.logs notice] w.journal with
      | (none, journal) => .ok a ⟨w.state, journal⟩
      | (some fault, journal) => .error fault ⟨w.state, journal⟩ := by
  rw [bind_apply, log_apply, pass_logs]
  by_cases hfails : w.journal.fails notice
  · rw [if_pos hfails, if_pos hfails]
  · rw [if_neg hfails, if_neg hfails]
    rfl

end Stage

/-- What a survey finds out, if the backend answers. -/
inductive Survey where
  | inputsFailed (error : SourceError)
  | outputsFailed (inputs : List Port) (error : SourceError)
  | complete (inputs outputs : List Port)
  deriving DecidableEq

namespace Survey

/-- The outputs are asked for if and only if the inputs are known. -/
def questions : Survey → List Query
  | inputsFailed _ => [.inputs]
  | outputsFailed _ _ | complete _ _ => [.inputs, .outputs]

def notice : Survey → Notice
  | inputsFailed error | outputsFailed _ error => .listingFailed error
  | complete inputs outputs => .listed inputs.length outputs.length

/-- An error is worth a warning; a listing is noted for debugging. -/
def level : Survey → Level
  | inputsFailed _ | outputsFailed _ _ => .warn
  | complete _ _ => .debug

theorem level_notice (survey : Survey) : survey.notice.level = survey.level := by
  cases survey <;> rfl

def errorLine (error : SourceError) : String :=
  "Error: " ++ error.message ++ "\n"

def text : Survey → String
  | inputsFailed error => Listing.inputHeader ++ errorLine error
  | outputsFailed inputs error => Backend.listedInputs inputs ++ errorLine error
  | complete inputs outputs => Listing.format inputs outputs

end Survey

namespace Backend

/-- What the next survey finds out, unless a question brings a fault. -/
def survey? (backend : Backend) : Option Survey :=
  match backend.inputs.upcoming with
  | .raises _ => none
  | .returns (.error error) => some (.inputsFailed error)
  | .returns (.ok inputs) =>
      match backend.outputs.upcoming with
      | .raises _ => none
      | .returns (.error error) => some (.outputsFailed inputs error)
      | .returns (.ok outputs) => some (.complete inputs outputs)

/-- The stages of the next survey. The outputs are asked for if and only if the inputs
are known. -/
def surveyStages (backend : Backend) : List Stage :=
  match backend.inputs.upcoming with
  | .raises text => [.asks .inputs (some text)]
  | .returns (.error error) => [.asks .inputs none, .logs (.listingFailed error)]
  | .returns (.ok inputs) =>
      .asks .inputs none ::
        match backend.outputs.upcoming with
        | .raises text => [.asks .outputs (some text)]
        | .returns (.error error) => [.asks .outputs none, .logs (.listingFailed error)]
        | .returns (.ok outputs) =>
            [.asks .outputs none, .logs (.listed inputs.length outputs.length)]

theorem surveyStages_of_survey? {backend : Backend} {survey : Survey}
    (h : backend.survey? = some survey) :
    backend.surveyStages =
      survey.questions.map (fun query => Stage.asks query none) ++ [.logs survey.notice] := by
  revert h
  rw [survey?, surveyStages]
  rcases backend.inputs.upcoming with (error | inputs) | text
  · rintro ⟨⟩
    rfl
  · rcases backend.outputs.upcoming with (error | outputs) | text <;> rintro ⟨⟩ <;> rfl
  · rintro ⟨⟩

def surveyed (backend : Backend) : Backend :=
  match backend.inputs.upcoming with
  | .returns (.ok _) =>
      { backend with inputs := backend.inputs.advance, outputs := backend.outputs.advance }
  | _ => { backend with inputs := backend.inputs.advance }

theorem askInputs_apply (backend : Backend) (journal : Journal Query) :
    askInputs ⟨backend, journal⟩ =
      match backend.inputs.upcoming with
      | .returns answer =>
          .ok answer ⟨{ backend with inputs := backend.inputs.advance },
            journal.add (.noted .inputs)⟩
      | .raises text =>
          .error (.raised text) ⟨{ backend with inputs := backend.inputs.advance },
            journal.add (.noted .inputs)⟩ := by
  rw [askInputs, Journaled.within, Script.ask_apply]
  cases backend.inputs.upcoming <;> rfl

theorem askOutputs_apply (backend : Backend) (journal : Journal Query) :
    askOutputs ⟨backend, journal⟩ =
      match backend.outputs.upcoming with
      | .returns answer =>
          .ok answer ⟨{ backend with outputs := backend.outputs.advance },
            journal.add (.noted .outputs)⟩
      | .raises text =>
          .error (.raised text) ⟨{ backend with outputs := backend.outputs.advance },
            journal.add (.noted .outputs)⟩ := by
  rw [askOutputs, Journaled.within, Script.ask_apply]
  cases backend.outputs.upcoming <;> rfl

theorem giveUp_apply (listed : String) (error : SourceError) (w : World Query Backend) :
    giveUp listed error w =
      match Stage.pass [.logs (.listingFailed error)] w.journal with
      | (none, journal) => .ok (listed ++ Survey.errorLine error) ⟨w.state, journal⟩
      | (some fault, journal) => .error fault ⟨w.state, journal⟩ := by
  have htext : listed ++ "Error: " ++ error.message ++ "\n" = listed ++ Survey.errorLine error := by
    simp only [Survey.errorLine, String.append_assoc]
  rw [giveUp, htext, Stage.log_pure_apply]

/-- A survey passes its stages, and gives its text if there is no fault. -/
theorem survey_apply (backend : Backend) (journal : Journal Query) :
    survey ⟨backend, journal⟩ =
      match Stage.pass backend.surveyStages journal with
      | (none, journal) =>
          .ok ((backend.survey?.map Survey.text).getD "") ⟨backend.surveyed, journal⟩
      | (some fault, journal) => .error fault ⟨backend.surveyed, journal⟩ := by
  rw [survey, bind_apply, askInputs_apply, surveyStages, survey?, surveyed]
  rcases backend.inputs.upcoming with (error | inputs) | text
  · exact giveUp_apply Listing.inputHeader error _
  · simp only [bind_apply, askOutputs_apply, Stage.pass, Stage.fault?, Option.map_none]
    rcases backend.outputs.upcoming with (error | outputs) | text
    · exact giveUp_apply (listedInputs inputs) error _
    · exact Stage.log_pure_apply (.listed inputs.length outputs.length) _ _
    · rfl
  · rfl

end Backend

end MidiConsole
