import Mathlib.Data.Nat.Digits.Lemmas
import MidiConsole.Proofs.Rendering

namespace MidiConsole

open Journaled Text

namespace Text

theorem notMem_toString_nat {c : Char} (h : c.isDigit = false) (number : Nat) :
    c ∉ (toString number).toList := by
  rw [Nat.toString_eq_repr, Nat.toList_repr]
  intro hmem
  rw [Nat.isDigit_of_mem_toDigits (by decide) (by decide) hmem] at h
  cases h

end Text

theorem SourceError.message_unavailable_inj {detail detail' : String}
    (h : (unavailable detail).message = (unavailable detail').message) : detail = detail' :=
  (String.append_right_inj _).mp h

namespace Port

structure OneLine (port : Port) : Prop where
  name : '\n' ∉ port.name.toList
  deviceName : ∀ name ∈ port.deviceName, '\n' ∉ name.toList
  displayName : ∀ name ∈ port.displayName, '\n' ∉ name.toList

theorem notMem_bracketed {c : Char} {opening closing : String} {name : Option String}
    (hopening : c ∉ opening.toList) (hclosing : c ∉ closing.toList)
    (hname : ∀ text ∈ name, c ∉ text.toList) : c ∉ (bracketed opening closing name).toList := by
  rcases name with _ | text
  · exact List.not_mem_nil
  · rw [bracketed, String.toList_append, String.toList_append]
    simp only [List.mem_append, not_or]
    exact ⟨⟨hopening, hname text rfl⟩, hclosing⟩

theorem mem_of_mem_distinct {port : Port} {name : Option String} {text : String}
    (h : text ∈ port.distinct name) : text ∈ name :=
  (Option.filter_eq_some_iff.mp h).1

theorem OneLine.notMem_line {port : Port} (h : port.OneLine) : '\n' ∉ port.line.toList := by
  simp only [line, String.toList_append, List.mem_append, not_or]
  refine ⟨⟨⟨⟨⟨by decide, notMem_toString_nat (by decide) _⟩, by decide⟩, h.name⟩, ?_⟩, ?_⟩
  · exact notMem_bracketed (by decide) (by decide) fun text hmem =>
      h.deviceName text (mem_of_mem_distinct hmem)
  · exact notMem_bracketed (by decide) (by decide) fun text hmem =>
      h.displayName text (mem_of_mem_distinct hmem)

theorem OneLine.isFull_line {port : Port} (h : port.OneLine) : IsFull port.line where
  ne_empty hempty := by
    have hbegins := port.beginsWith_line
    rw [hempty] at hbegins
    cases hbegins
  notMem := h.notMem_line

end Port

namespace Listing

def bodyLines (remark : String) : List Port → List String
  | [] => [remark]
  | port :: ports => (port :: ports).map Port.line

theorem body_eq_ofLines (remark : String) (ports : List Port) :
    body remark ports = ofLines (bodyLines remark ports) := by
  rcases ports with _ | ⟨port, ports⟩
  · rw [bodyLines, ofLines, List.map_singleton, String.join_cons, String.join_nil,
      String.append_empty]
    rfl
  · rw [bodyLines, ofLines, List.map_map]
    rfl

/-- A remark cannot be taken for the line of a port. -/
structure IsRemark (remark : String) : Prop extends IsFull remark where
  begins : BeginsWith 'N' remark

theorem isRemark_noInputs : IsRemark noInputs where
  ne_empty := by decide
  notMem := by decide
  begins := rfl

theorem isRemark_noOutputs : IsRemark noOutputs where
  ne_empty := by decide
  notMem := by decide
  begins := rfl

variable {remark : String} {ports ports' : List Port}

theorem IsRemark.ne_line (h : IsRemark remark) (port : Port) : remark ≠ port.line := by
  rintro rfl
  exact absurd (h.begins.eq port.beginsWith_line) (by decide)

theorem IsRemark.bodyLines_inj (h : IsRemark remark)
    (hlines : bodyLines remark ports = bodyLines remark ports') :
    ports.map Port.line = ports'.map Port.line := by
  rcases ports with _ | ⟨port, ports⟩
  · rcases ports' with _ | ⟨port', ports'⟩
    · rfl
    · exact absurd (List.cons.inj hlines).1 (h.ne_line port')
  · rcases ports' with _ | ⟨port', ports'⟩
    · exact absurd (List.cons.inj hlines).1.symm (h.ne_line port)
    · exact hlines

theorem IsRemark.isFull_of_mem (h : IsRemark remark) (hports : ∀ port ∈ ports, port.OneLine) :
    ∀ line ∈ bodyLines remark ports, IsFull line := by
  rcases ports with _ | ⟨port, ports⟩
  · intro line hmem
    obtain rfl := List.mem_singleton.mp hmem
    exact h.toIsFull
  · intro line hmem
    obtain ⟨other, hother, rfl⟩ := List.mem_map.mp hmem
    exact (hports other hother).isFull_line

theorem body_inj (hremark : IsRemark remark) (hports : ∀ port ∈ ports, port.OneLine)
    (hports' : ∀ port ∈ ports', port.OneLine) (h : body remark ports = body remark ports') :
    ports.map Port.line = ports'.map Port.line := by
  rw [body_eq_ofLines, body_eq_ofLines] at h
  exact hremark.bodyLines_inj
    (ofLines_inj (hremark.isFull_of_mem hports) (hremark.isFull_of_mem hports') h)

theorem body_append_inj (hremark : IsRemark remark) (hports : ∀ port ∈ ports, port.OneLine)
    (hports' : ∀ port ∈ ports', port.OneLine) {rest rest' : String}
    (h : body remark ports ++ ("\n" ++ rest) = body remark ports' ++ ("\n" ++ rest')) :
    ports.map Port.line = ports'.map Port.line ∧ rest = rest' := by
  rw [body_eq_ofLines, body_eq_ofLines] at h
  obtain ⟨hlines, hrest⟩ :=
    ofLines_append_inj (hremark.isFull_of_mem hports) (hremark.isFull_of_mem hports') h
  exact ⟨hremark.bodyLines_inj hlines, hrest⟩

theorem IsRemark.body_ne_errorLine (h : IsRemark remark) (ports : List Port) (rest : String)
    (error : SourceError) : body remark ports ++ rest ≠ Survey.errorLine error := by
  intro heq
  have herror : BeginsWith 'E' (body remark ports ++ rest) := by
    rw [heq]
    have hstart : BeginsWith 'E' "Error: " := rfl
    rw [Survey.errorLine, String.append_assoc]
    exact hstart.append _
  rcases ports with _ | ⟨port, ports⟩
  · exact absurd (((h.begins.append _).append _).eq herror) (by decide)
  · exact absurd (((beginsWith_body_cons _ _ _).append _).eq herror) (by decide)

end Listing

/-- What a listing shows of an answer: the lines of the ports, or the error. -/
def PortAnswer.shown (answer : PortAnswer) : Except SourceError (List String) :=
  answer.map fun ports => ports.map Port.line

/-- An answer that its section tells: no name of a port has a newline, and an error is that
the backend is unavailable. Errors of other kinds have any text, also one of this kind. -/
def PortAnswer.Legible : PortAnswer → Prop
  | .ok ports => ∀ port ∈ ports, port.OneLine
  | .error error => ∃ detail, error = .unavailable detail

namespace Survey

theorem message_of_errorLine_eq {error error' : SourceError}
    (h : errorLine error = errorLine error') : error.message = error'.message := by
  rw [errorLine, errorLine, String.append_left_inj, String.append_right_inj] at h
  exact h

theorem errorLine_inj {error error' : SourceError} (herror : PortAnswer.Legible (.error error))
    (herror' : PortAnswer.Legible (.error error')) (h : errorLine error = errorLine error') :
    error = error' := by
  obtain ⟨detail, rfl⟩ := herror
  obtain ⟨detail', rfl⟩ := herror'
  exact congrArg _ (SourceError.message_unavailable_inj (message_of_errorLine_eq h))

def sectionText (remark : String) : PortAnswer → String
  | .error error => errorLine error
  | .ok ports => Listing.body remark ports

theorem text_ofAnswers_error (error : SourceError) (outputs : PortAnswer) :
    (ofAnswers (.error error) outputs).text = Listing.inputHeader ++ errorLine error :=
  rfl

theorem text_ofAnswers_ok (inputs : List Port) (outputs : PortAnswer) :
    (ofAnswers (.ok inputs) outputs).text = Listing.inputHeader ++ (Listing.inputBody inputs ++
      ("\n" ++ ("=== MIDI Output Devices ===\n" ++ sectionText Listing.noOutputs outputs))) := by
  have hheader : Listing.outputHeader = "\n" ++ "=== MIDI Output Devices ===\n" := by decide
  rcases outputs with error | outputs
  · rw [ofAnswers, text, Backend.listedInputs, hheader]
    simp only [String.append_assoc]
    rfl
  · rw [ofAnswers, text, Listing.format, hheader]
    simp only [String.append_assoc]
    rfl

theorem sectionText_inj {remark : String} (hremark : Listing.IsRemark remark)
    {answer answer' : PortAnswer} (hanswer : answer.Legible) (hanswer' : answer'.Legible)
    (h : sectionText remark answer = sectionText remark answer') :
    answer.shown = answer'.shown := by
  rcases answer with error | ports
  · rcases answer' with error' | ports'
    · rw [errorLine_inj hanswer hanswer' h]
    · exact absurd (String.append_empty.trans h.symm) (hremark.body_ne_errorLine ports' "" error)
  · rcases answer' with error' | ports'
    · exact absurd (String.append_empty.trans h) (hremark.body_ne_errorLine ports "" error')
    · exact congrArg Except.ok
        (Listing.body_inj hremark hanswer hanswer' h)

theorem shown_of_text_eq {inputs outputs inputs' outputs' : PortAnswer}
    (hinputs : inputs.Legible) (houtputs : outputs.Legible) (hinputs' : inputs'.Legible)
    (houtputs' : outputs'.Legible)
    (h : (ofAnswers inputs outputs).text = (ofAnswers inputs' outputs').text) :
    inputs.shown = inputs'.shown ∧
      ((∃ ports, inputs = .ok ports) → outputs.shown = outputs'.shown) := by
  rcases inputs with error | inputs
  · rcases inputs' with error' | inputs'
    · rw [text_ofAnswers_error, text_ofAnswers_error, String.append_right_inj] at h
      rw [errorLine_inj hinputs hinputs' h]
      exact ⟨rfl, fun ⟨ports, hports⟩ => by cases hports⟩
    · rw [text_ofAnswers_error, text_ofAnswers_ok, String.append_right_inj] at h
      exact absurd h.symm (Listing.isRemark_noInputs.body_ne_errorLine _ _ error)
  · rcases inputs' with error' | inputs'
    · rw [text_ofAnswers_error, text_ofAnswers_ok, String.append_right_inj] at h
      exact absurd h (Listing.isRemark_noInputs.body_ne_errorLine _ _ error')
    · rw [text_ofAnswers_ok, text_ofAnswers_ok, String.append_right_inj] at h
      obtain ⟨hlines, hrest⟩ := Listing.body_append_inj Listing.isRemark_noInputs
        hinputs hinputs' h
      refine ⟨congrArg Except.ok hlines, fun _ => ?_⟩
      rw [String.append_right_inj] at hrest
      exact sectionText_inj Listing.isRemark_noOutputs houtputs houtputs' hrest

end Survey

namespace Backend

/-- If two surveys give one text, no name of a port has a newline, and an error is that the
backend is unavailable, whatever the detail, then both were answered with the same error in
the place of the inputs, or both with inputs, of the same lines in the same order. In the
latter case the same holds of the outputs. -/
theorem answers_told_by_listing {backend backend' : Backend}
    {inputs outputs inputs' outputs' : PortAnswer}
    (hinputs : backend.inputs.upcoming = .returns inputs)
    (houtputs : backend.outputs.upcoming = .returns outputs)
    (hinputs' : backend'.inputs.upcoming = .returns inputs')
    (houtputs' : backend'.outputs.upcoming = .returns outputs')
    (hlegible : inputs.Legible ∧ outputs.Legible)
    (hlegible' : inputs'.Legible ∧ outputs'.Legible)
    {journal journal' : Journal Query} {text : String} {w w' : World Query Backend}
    (hsurvey : survey ⟨backend, journal⟩ = .ok text w)
    (hsurvey' : survey ⟨backend', journal'⟩ = .ok text w') :
    inputs.shown = inputs'.shown ∧
      ((∃ ports, inputs = .ok ports) → outputs.shown = outputs'.shown) := by
  have htext := text_of_survey_eq_ok (survey?_of_returns hinputs houtputs) hsurvey
  have htext' := text_of_survey_eq_ok (survey?_of_returns hinputs' houtputs') hsurvey'
  exact Survey.shown_of_text_eq hlegible.1 hlegible.2 hlegible'.1 hlegible'.2
    (htext.symm.trans htext')

def answering (inputs outputs : PortAnswer) : Backend where
  names := .repeating [] "loopback"
  inputs := .repeating [.returns inputs] (.ok [])
  outputs := .repeating [.returns outputs] (.ok [])

/-- A name that repeats the name of the port is not shown. The detail of an error may look
like a section. -/
theorem repeatedName_told_by_listing :
    let error : SourceError := .unavailable "gone\n\n=== MIDI Output Devices ==="
    let port : Port := { number := 0, name := "keys" }
    let same := port.withDeviceName "keys"
    (∃ w w', survey ⟨answering (.ok [port]) (.error error), {}⟩ =
          .ok (Survey.outputsFailed [port] error).text w ∧
        survey ⟨answering (.ok [same]) (.error error), {}⟩ =
          .ok (Survey.outputsFailed [port] error).text w') ∧
      PortAnswer.shown (.ok [port]) = PortAnswer.shown (.ok [same]) := by
  intro error port same
  have hport : PortAnswer.Legible (.ok [port]) :=
    List.forall_mem_singleton.mpr ⟨by decide, by rintro _ ⟨⟩, by rintro _ ⟨⟩⟩
  have hsame : PortAnswer.Legible (.ok [same]) :=
    List.forall_mem_singleton.mpr ⟨by decide, by rintro _ ⟨⟩; decide, by rintro _ ⟨⟩⟩
  have herror : PortAnswer.Legible (.error error) := ⟨_, rfl⟩
  have hfound : ∀ ports, (answering (.ok ports) (.error error)).survey? =
      some (.outputsFailed ports error) := fun _ => rfl
  have hsurvey : ∀ ports, ∃ w, survey ⟨answering (.ok ports) (.error error), {}⟩ =
      .ok (Survey.outputsFailed ports error).text w := fun ports =>
    exists_survey_eq_ok (hfound ports) rfl
  have htext : (Survey.outputsFailed [same] error).text =
      (Survey.outputsFailed [port] error).text := by
    decide +kernel
  obtain ⟨w, hsurvey_port⟩ := hsurvey [port]
  obtain ⟨w', hsurvey_same⟩ := hsurvey [same]
  rw [htext] at hsurvey_same
  refine ⟨⟨w, w', hsurvey_port, hsurvey_same⟩, ?_⟩
  exact (answers_told_by_listing rfl rfl rfl rfl ⟨hport, herror⟩ ⟨hsame, herror⟩ hsurvey_port
    hsurvey_same).1

end Backend

end MidiConsole
