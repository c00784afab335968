import MidiConsole.Proofs.Lines
import MidiConsole.Proofs.Surveys

namespace MidiConsole

open Journaled

namespace Text

/-- The longest text that all texts of a family begin with. -/
structure LongestCommonStart {ι : Type} (texts : ι → String) (start : String) : Prop where
  starts : ∀ i, start.toList <+: (texts i).toList
  longest : ∀ other : String, (∀ i, other.toList <+: (texts i).toList) →
    other.toList <+: start.toList

theorem longestCommonStart_of_ne {ι : Type} {texts rests : ι → String} {start : String}
    (htexts : ∀ i, texts i = start ++ rests i) {i j : ι} {c d : Char}
    (hi : BeginsWith c (rests i)) (hj : BeginsWith d (rests j)) (hne : c ≠ d) :
    LongestCommonStart texts start := by
  have hchars : ∀ i, (texts i).toList = start.toList ++ (rests i).toList := fun i => by
    rw [htexts, String.toList_append]
  constructor
  · intro k
    rw [hchars]
    exact List.prefix_append _ _
  · intro other hother
    have hstart : start.toList <+: (texts i).toList := by
      rw [hchars]
      exact List.prefix_append _ _
    rcases List.prefix_or_prefix_of_prefix (hother i) hstart with hshort | ⟨more, hmore⟩
    · exact hshort
    · -- A longer text would go on as all of the texts do.
      have hgoes : ∀ k, more <+: (rests k).toList := by
        intro k
        have hk := hother k
        rwa [← hmore, hchars, List.prefix_append_right_inj] at hk
      rcases more with _ | ⟨e, more⟩
      · have heq : start.toList = other.toList := (List.append_nil _).symm.trans hmore
        exact heq ▸ List.prefix_rfl
      · have hbegins : ∀ k a, BeginsWith a (rests k) → a = e := by
          rintro k a ha
          obtain ⟨tail, htail⟩ := hgoes k
          rw [BeginsWith, ← htail] at ha
          exact (Option.some.inj ha).symm
        exact absurd ((hbegins i c hi).trans (hbegins j d hj).symm) hne

end Text

open Text

theorem Port.beginsWith_line (port : Port) : BeginsWith 'P' port.line := by
  have hstart : BeginsWith 'P' "Port " := rfl
  simp only [Port.line, String.append_assoc]
  exact hstart.append _

namespace Listing

theorem beginsWith_body_cons (remark : String) (port : Port) (ports : List Port) :
    BeginsWith 'P' (body remark (port :: ports)) := by
  have hbody : body remark (port :: ports) =
      port.line ++ ("\n" ++ String.join (ports.map fun port => port.line ++ "\n")) := by
    rw [body, List.map_cons, String.join_cons, String.append_assoc]
    exact List.cons_ne_nil _ _
  rw [hbody]
  exact port.beginsWith_line.append _

theorem beginsWith_inputBody_nil : BeginsWith 'N' (inputBody []) :=
  rfl

theorem beginsWith_outputBody_nil : BeginsWith 'N' (outputBody []) :=
  rfl

/-- The listings with given inputs agree up to the ports of the second section, and no
further. -/
theorem longestCommonStart_format (inputs : List Port) :
    LongestCommonStart (format inputs) (Backend.listedInputs inputs) :=
  longestCommonStart_of_ne (i := []) (j := [⟨0, "", none, none⟩]) (fun _ => rfl)
    beginsWith_outputBody_nil (beginsWith_body_cons _ _ _) (by decide)

theorem longestCommonStart_formats :
    LongestCommonStart (fun ports : List Port × List Port => format ports.1 ports.2)
      inputHeader := by
  have hrests : ∀ ports : List Port × List Port, format ports.1 ports.2 =
      inputHeader ++ (inputBody ports.1 ++ (outputHeader ++ outputBody ports.2)) := by
    intro ports
    simp only [format, String.append_assoc]
  exact longestCommonStart_of_ne (i := ([], [])) (j := ([⟨0, "", none, none⟩], [])) hrests
    (beginsWith_inputBody_nil.append _) ((beginsWith_body_cons _ _ _).append _) (by decide)

end Listing

theorem Stage.pass_questions (queries : List Query) (notice : Notice) (journal : Journal Query) :
    (pass (queries.map (fun query => asks query none) ++ [logs notice]) journal).1 =
      if journal.fails notice then some .sink else none := by
  induction queries generalizing journal with
  | nil => rw [List.map_nil, List.nil_append, pass_logs]
  | cons query queries ih =>
      have hfails : (journal.add (.noted query)).fails notice = journal.fails notice := by
        rw [Journal.fails, Journal.notices_add_noted]
        rfl
      rw [List.map_cons, List.cons_append, ← hfails]
      exact ih (journal.add (.noted query))

namespace Survey

/-- What a survey finds out from two answers. The answer about the outputs does not matter
if the inputs are not known. -/
def ofAnswers : PortAnswer → PortAnswer → Survey
  | .error error, _ => inputsFailed error
  | .ok inputs, .error error => outputsFailed inputs error
  | .ok inputs, .ok outputs => complete inputs outputs

end Survey

namespace Backend

variable {backend : Backend} {journal : Journal Query}

theorem survey?_of_returns {inputs outputs : PortAnswer}
    (hinputs : backend.inputs.upcoming = .returns inputs)
    (houtputs : backend.outputs.upcoming = .returns outputs) :
    backend.survey? = some (.ofAnswers inputs outputs) := by
  rw [survey?, hinputs, houtputs]
  rcases inputs with error | inputs
  · rfl
  · rcases outputs with error | outputs <;> rfl

theorem survey?_of_inputs_error {error : SourceError}
    (hinputs : backend.inputs.upcoming = .returns (.error error)) :
    backend.survey? = some (.inputsFailed error) := by
  rw [survey?, hinputs]

theorem text_of_survey_eq_ok {found : Survey} (hfound : backend.survey? = some found)
    {text : String} {w : World Query Backend} (h : survey ⟨backend, journal⟩ = .ok text w) :
    text = found.text := by
  rw [survey_apply, hfound] at h
  split at h
  · exact (EStateM.Result.ok.inj h).1.symm
  · cases h

theorem exists_survey_eq_ok {found : Survey} (hfound : backend.survey? = some found)
    (hlog : journal.fails found.notice = false) :
    ∃ w, survey ⟨backend, journal⟩ = .ok found.text w := by
  have hpass : (Stage.pass backend.surveyStages journal).1 = none := by
    rw [surveyStages_of_survey? hfound, Stage.pass_questions, hlog]
    rfl
  rw [survey_apply, hfound]
  generalize Stage.pass backend.surveyStages journal = passed at hpass
  obtain ⟨_, journal'⟩ := passed
  obtain rfl := hpass
  exact ⟨_, rfl⟩

/-- A survey whose questions are answered, and whose log takes its notice, gives a text. It
is the listing of the ports if both answers have them. If there is an error in the place of
the outputs, it is the longest text that all listings with these inputs begin with, and the
line of the error. If there is one in the place of the inputs, it is the longest text that
all listings begin with, and the line of the error, whatever the outputs are. -/
theorem survey_lists_or_breaks_off (backend : Backend) (journal : Journal Query)
    (hlog : ∀ notice, journal.fails notice = false) :
    (∀ inputs outputs, backend.inputs.upcoming = .returns (.ok inputs) →
        backend.outputs.upcoming = .returns (.ok outputs) →
        ∃ w, survey ⟨backend, journal⟩ = .ok (Listing.format inputs outputs) w) ∧
      (∀ inputs error, backend.inputs.upcoming = .returns (.ok inputs) →
        backend.outputs.upcoming = .returns (.error error) →
        ∃ start, LongestCommonStart (fun outputs => Listing.format inputs outputs) start ∧
          ∃ w, survey ⟨backend, journal⟩ =
            .ok (start ++ "Error: " ++ error.message ++ "\n") w) ∧
      (∀ error, backend.inputs.upcoming = .returns (.error error) →
        ∃ start, LongestCommonStart
            (fun ports : List Port × List Port => Listing.format ports.1 ports.2) start ∧
          ∃ w, survey ⟨backend, journal⟩ =
            .ok (start ++ "Error: " ++ error.message ++ "\n") w) := by
  have hline : ∀ (start : String) (error : SourceError),
      start ++ "Error: " ++ error.message ++ "\n" = start ++ Survey.errorLine error := by
    intro start error
    simp only [Survey.errorLine, String.append_assoc]
  refine ⟨?_, ?_, ?_⟩
  · intro inputs outputs hinputs houtputs
    exact exists_survey_eq_ok (survey?_of_returns hinputs houtputs) (hlog _)
  · intro inputs error hinputs houtputs
    refine ⟨listedInputs inputs, Listing.longestCommonStart_format inputs, ?_⟩
    rw [hline]
    exact exists_survey_eq_ok (survey?_of_returns hinputs houtputs) (hlog _)
  · intro error hinputs
    refine ⟨Listing.inputHeader, Listing.longestCommonStart_formats, ?_⟩
    rw [hline]
    exact exists_survey_eq_ok (survey?_of_inputs_error hinputs) (hlog _)

/-- A backend that can list everything at first, then no outputs, and at last nothing, for a
reason of the system below it. -/
def fading : Backend where
  names := .repeating [] "loopback"
  inputs := .repeating [.returns (.ok []), .returns (.ok [{ number := 0, name := "keys" }]),
    .returns (.error (.init ⟨"no sequencer", "InitError"⟩))] (.ok [])
  outputs := .repeating [.returns (.ok [{ number := 1, name := "pads" }]),
    .returns (.error (.unavailable "busy"))] (.ok [])

theorem fading_lists_or_breaks_off :
    (∃ w, survey ⟨fading, {}⟩ = .ok (Listing.format [] [{ number := 1, name := "pads" }]) w) ∧
      (∃ start, LongestCommonStart
          (fun outputs => Listing.format [{ number := 0, name := "keys" }] outputs) start ∧
        ∃ w, survey ⟨fading.surveyed, {}⟩ =
          .ok (start ++ "Error: " ++ "backend unavailable: busy" ++ "\n") w) ∧
      ∃ start, LongestCommonStart
          (fun ports : List Port × List Port => Listing.format ports.1 ports.2) start ∧
        ∃ w, survey ⟨fading.surveyed.surveyed, {}⟩ =
          .ok (start ++ "Error: " ++ "no sequencer" ++ "\n") w := by
  refine ⟨?_, ?_, ?_⟩
  · exact (survey_lists_or_breaks_off fading {} fun _ => rfl).1 _ _ rfl rfl
  · exact (survey_lists_or_breaks_off fading.surveyed {} fun _ => rfl).2.1 _
      (.unavailable "busy") rfl rfl
  · exact (survey_lists_or_breaks_off fading.surveyed.surveyed {} fun _ => rfl).2.2
      (.init ⟨"no sequencer", "InitError"⟩) rfl

end Backend

end MidiConsole
