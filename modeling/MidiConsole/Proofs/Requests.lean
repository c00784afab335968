import Mathlib.Logic.Function.Iterate
import MidiConsole.Proofs.Surveys

namespace MidiConsole

open Journaled

namespace Source

inductive Request where
  | version
  | listing
  deriving DecidableEq

end Source

/-- The request that begins with a question. -/
def Query.request? : Query → Option Source.Request
  | versions | backends => some .version
  | listings | inputs => some .listing
  | outputs => none

def Event.request? : Event Query → Option Source.Request
  | noted query => query.request?
  | logged _ => none

def requestsIn (events : List (Event Query)) : List Source.Request :=
  events.filterMap Event.request?

@[simp] theorem requestsIn_append (events later : List (Event Query)) :
    requestsIn (events ++ later) = requestsIn events ++ requestsIn later :=
  List.filterMap_append

@[simp] theorem requestsIn_add_noted (journal : Journal Query) (query : Query) :
    requestsIn (journal.add (.noted query)).events =
      requestsIn journal.events ++ query.request?.toList := by
  rw [Journal.add, requestsIn_append]
  cases query <;> rfl

@[simp] theorem requestsIn_write (journal : Journal Query) (notice : Notice) :
    requestsIn (journal.write notice).events = requestsIn journal.events := by
  rw [Journal.write, Journal.add, requestsIn_append]
  exact List.append_nil _

namespace Stage

theorem requestsIn_pass {stages : List Stage}
    (h : ∀ stage ∈ stages, stage.event.request? = none) (journal : Journal Query) :
    requestsIn (pass stages journal).2.events = requestsIn journal.events := by
  induction stages generalizing journal with
  | nil => rfl
  | cons stage stages ih =>
      obtain ⟨hstage, hstages⟩ := List.forall_mem_cons.mp h
      have hadd : requestsIn (journal.add stage.event).events = requestsIn journal.events := by
        rw [Journal.add, requestsIn_append, requestsIn, requestsIn, List.filterMap_cons, hstage]
        exact List.append_nil _
      rw [pass]
      split
      · exact hadd
      · exact (ih hstages _).trans hadd

end Stage

namespace Backend

theorem surveyStages_eq_cons (backend : Backend) :
    ∃ raised stages, backend.surveyStages = .asks .inputs raised :: stages ∧
      ∀ stage ∈ stages, stage.event.request? = none := by
  rw [surveyStages]
  rcases backend.inputs.upcoming with (error | inputs) | text
  · exact ⟨none, _, rfl, by simp [Stage.event, Event.request?]⟩
  · refine ⟨none, _, rfl, ?_⟩
    rcases backend.outputs.upcoming with (error | outputs) | text <;>
      simp [Stage.event, Event.request?, Query.request?]
  · exact ⟨some text, [], rfl, List.forall_mem_nil _⟩

theorem requestsIn_pass_surveyStages (backend : Backend) (journal : Journal Query) :
    requestsIn (Stage.pass backend.surveyStages journal).2.events =
      requestsIn journal.events ++ [.listing] := by
  obtain ⟨raised, stages, hstages, hnone⟩ := backend.surveyStages_eq_cons
  have hadd : requestsIn (journal.add (Stage.asks .inputs raised).event).events =
      requestsIn journal.events ++ [.listing] :=
    requestsIn_add_noted journal .inputs
  rw [hstages, Stage.pass]
  split
  · exact hadd
  · exact (Stage.requestsIn_pass hnone _).trans hadd

def versionText (name : String) : String :=
  Product.name ++ " " ++ Product.version ++ " (" ++ name ++ ")"

end Backend

def Answer.result {α : Type} : Answer α → Except Fault α
  | returns value => .ok value
  | raises text => .error (.raised text)

namespace Source

def answer : Request → Journaled Query Source String
  | .version => version
  | .listing => listing

/-- What a request comes to, and the journal after it. -/
def reply (request : Request) (w : World Query Source) : Except Fault String × Journal Query :=
  match answer request w with
  | .ok text w' => (.ok text, w'.journal)
  | .error fault w' => (.error fault, w'.journal)

def asked : Request → Source → Source
  | .version, plain versions listings => plain versions.advance listings
  | .listing, plain versions listings => plain versions listings.advance
  | .version, surveyed backend => surveyed { backend with names := backend.names.advance }
  | .listing, surveyed backend => surveyed backend.surveyed

theorem version_plain (versions listings : Script String) (journal : Journal Query) :
    version ⟨plain versions listings, journal⟩ =
      match versions.upcoming with
      | .returns text =>
          .ok text ⟨plain versions.advance listings, journal.add (.noted .versions)⟩
      | .raises text =>
          .error (.raised text)
            ⟨plain versions.advance listings, journal.add (.noted .versions)⟩ := by
  simp only [version, bind_apply, state_apply, Journaled.within, Script.ask_apply]
  cases versions.upcoming <;> rfl

theorem listing_plain (versions listings : Script String) (journal : Journal Query) :
    listing ⟨plain versions listings, journal⟩ =
      match listings.upcoming with
      | .returns text =>
          .ok text ⟨plain versions listings.advance, journal.add (.noted .listings)⟩
      | .raises text =>
          .error (.raised text)
            ⟨plain versions listings.advance, journal.add (.noted .listings)⟩ := by
  simp only [listing, bind_apply, state_apply, Journaled.within, Script.ask_apply]
  cases listings.upcoming <;> rfl

theorem version_surveyed (backend : Backend) (journal : Journal Query) :
    version ⟨surveyed backend, journal⟩ =
      match backend.names.upcoming with
      | .returns name =>
          .ok (Backend.versionText name)
            ⟨surveyed { backend with names := backend.names.advance },
              journal.add (.noted .backends)⟩
      | .raises text =>
          .error (.raised text)
            ⟨surveyed { backend with names := backend.names.advance },
              journal.add (.noted .backends)⟩ := by
  simp only [version, bind_apply, state_apply, Journaled.within, Backend.version,
    Backend.askName, Script.ask_apply]
  cases backend.names.upcoming <;> rfl

theorem listing_surveyed (backend : Backend) (journal : Journal Query) :
    listing ⟨surveyed backend, journal⟩ =
      match Stage.pass backend.surveyStages journal with
      | (none, journal) =>
          .ok ((backend.survey?.map Survey.text).getD "") ⟨surveyed backend.surveyed, journal⟩
      | (some fault, journal) => .error fault ⟨surveyed backend.surveyed, journal⟩ := by
  simp only [listing, bind_apply, state_apply, Journaled.within, Backend.survey_apply]
  rcases Stage.pass backend.surveyStages journal with ⟨_ | fault, journal⟩ <;> rfl

/-- A request leaves the source in one way, whatever comes of it. -/
theorem answer_apply (request : Request) (w : World Query Source) :
    answer request w =
      match reply request w with
      | (.ok text, journal) => .ok text ⟨w.state.asked request, journal⟩
      | (.error fault, journal) => .error fault ⟨w.state.asked request, journal⟩ := by
  obtain ⟨source, journal⟩ := w
  rcases source with ⟨versions, listings⟩ | backend <;> cases request <;>
    simp only [reply, answer, asked]
  · rw [version_plain]
    cases versions.upcoming <;> rfl
  · rw [listing_plain]
    cases listings.upcoming <;> rfl
  · rw [version_surveyed]
    cases backend.names.upcoming <;> rfl
  · rw [listing_surveyed]
    rcases Stage.pass backend.surveyStages journal with ⟨_ | fault, journal⟩ <;> rfl

theorem requestsIn_reply (request : Request) (w : World Query Source) :
    requestsIn (reply request w).2.events = requestsIn w.journal.events ++ [request] := by
  obtain ⟨source, journal⟩ := w
  rcases source with ⟨versions, listings⟩ | backend <;> cases request <;>
    simp only [reply, answer]
  · rw [version_plain]
    cases versions.upcoming <;> exact requestsIn_add_noted journal .versions
  · rw [listing_plain]
    cases listings.upcoming <;> exact requestsIn_add_noted journal .listings
  · rw [version_surveyed]
    cases backend.names.upcoming <;> exact requestsIn_add_noted journal .backends
  · have h := backend.requestsIn_pass_surveyStages journal
    rw [listing_surveyed]
    generalize Stage.pass backend.surveyStages journal = passed at h ⊢
    rcases passed with ⟨_ | fault, journal'⟩ <;> exact h

def askedAll (requests : List Request) (source : Source) : Source :=
  requests.foldl (fun source request => source.asked request) source

theorem askedAll_surveyed (requests : List Request) (backend : Backend) :
    ∃ backend', (surveyed backend).askedAll requests = surveyed backend' := by
  induction requests generalizing backend with
  | nil => exact ⟨backend, rfl⟩
  | cons request requests ih =>
      cases request with
      | version => exact ih _
      | listing => exact ih _

theorem askedAll_append (requests later : List Request) (source : Source) :
    source.askedAll (requests ++ later) = (source.askedAll requests).askedAll later :=
  List.foldl_append

theorem asked_commute : Function.Commute (asked .version) (asked .listing) := by
  intro source
  rcases source with ⟨versions, listings⟩ | backend
  · rfl
  · simp only [asked, Backend.surveyed, Script.upcoming]
    rcases backend.inputs.answer backend.inputs.asked with (error | inputs) | text <;> rfl

/-- The requests of each kind can be counted apart. -/
theorem askedAll_eq (requests : List Request) (source : Source) :
    source.askedAll requests =
      (asked .version)^[requests.count .version]
        ((asked .listing)^[requests.count .listing] source) := by
  induction requests generalizing source with
  | nil => rfl
  | cons request requests ih =>
      rw [askedAll, List.foldl_cons, ← askedAll, ih]
      cases request with
      | version =>
          rw [List.count_cons_self, List.count_cons_of_ne (by decide), Function.iterate_succ_apply,
            (asked_commute.iterate_right _).eq]
      | listing =>
          rw [List.count_cons_self, List.count_cons_of_ne (by decide), Function.iterate_succ_apply]

theorem reply_version_asked (source : Source) (journal : Journal Query) :
    reply .version ⟨source.asked .listing, journal⟩ = reply .version ⟨source, journal⟩ := by
  rcases source with ⟨versions, listings⟩ | backend
  · simp only [reply, answer, asked, version_plain]
    cases versions.upcoming <;> rfl
  · have hnames : backend.surveyed.names = backend.names := by
      rw [Backend.surveyed]
      split <;> rfl
    simp only [reply, answer, asked, version_surveyed, hnames]
    cases backend.names.upcoming <;> rfl

theorem reply_listing_asked (source : Source) (journal : Journal Query) :
    reply .listing ⟨source.asked .version, journal⟩ = reply .listing ⟨source, journal⟩ := by
  rcases source with ⟨versions, listings⟩ | backend
  · simp only [reply, answer, asked, listing_plain]
    cases listings.upcoming <;> rfl
  · have hstages : Backend.surveyStages { backend with names := backend.names.advance } =
        backend.surveyStages := rfl
    simp only [reply, answer, asked, listing_surveyed, hstages]
    rcases Stage.pass backend.surveyStages journal with ⟨_ | fault, journal⟩ <;> rfl

/-- What a request comes to depends only on how many of its kind there were before. -/
theorem reply_askedAll (request : Request) (requests : List Request) (source : Source)
    (journal : Journal Query) :
    reply request ⟨source.askedAll requests, journal⟩ =
      reply request ⟨(asked request)^[requests.count request] source, journal⟩ := by
  cases request with
  | version =>
      rw [askedAll_eq, (asked_commute.iterate_iterate _ _).eq]
      induction requests.count .listing with
      | zero => rfl
      | succ n ih => rw [Function.iterate_succ_apply', reply_version_asked, ih]
  | listing =>
      rw [askedAll_eq]
      induction requests.count .version with
      | zero => rfl
      | succ n ih => rw [Function.iterate_succ_apply', reply_listing_asked, ih]

theorem iterate_asked_plain (request : Request) (n : Nat) (versions listings : Script String) :
    (asked request)^[n] (plain versions listings) =
      match request with
      | .version => plain { versions with asked := versions.asked + n } listings
      | .listing => plain versions { listings with asked := listings.asked + n } := by
  induction n with
  | zero => cases request <;> rfl
  | succ n ih =>
      rw [Function.iterate_succ_apply', ih]
      cases request <;> rfl

theorem reply_plain (request : Request) (n : Nat) (versions listings : Script String)
    (journal : Journal Query) :
    (reply request ⟨(asked request)^[n] (plain versions listings), journal⟩).1 =
      match request with
      | .version => (versions.answer (versions.asked + n)).result
      | .listing => (listings.answer (listings.asked + n)).result := by
  rw [iterate_asked_plain]
  cases request with
  | version =>
      simp only [reply, answer, version_plain, Script.upcoming]
      cases versions.answer (versions.asked + n) <;> rfl
  | listing =>
      simp only [reply, answer, listing_plain, Script.upcoming]
      cases listings.answer (listings.asked + n) <;> rfl

/-- What a refresh gets from its source: the listing, if neither the request for it nor
the notice of it brings a fault. -/
def fetched (w : World Query Source) : Except Fault String × Journal Query :=
  match reply .listing w with
  | (.ok devices, journal) =>
      (if journal.fails (.refreshed devices) then .error .sink else .ok devices,
        journal.write (.refreshed devices))
  | (.error fault, journal) => (.error fault, journal)

theorem requestsIn_fetched (w : World Query Source) :
    requestsIn (fetched w).2.events = requestsIn w.journal.events ++ [.listing] := by
  have h := requestsIn_reply .listing w
  rw [fetched]
  generalize reply .listing w = replied at h ⊢
  rcases replied with ⟨fault | devices, journal⟩
  · exact h
  · exact (requestsIn_write _ _).trans h

theorem fetched_askedAll (requests : List Request) (source : Source) (journal : Journal Query) :
    fetched ⟨source.askedAll requests, journal⟩ =
      fetched ⟨(asked .listing)^[requests.count .listing] source, journal⟩ := by
  rw [fetched, fetched, reply_askedAll]

theorem fetched_asked_version (source : Source) (journal : Journal Query) :
    fetched ⟨source.asked .version, journal⟩ = fetched ⟨source, journal⟩ :=
  fetched_askedAll [.version] source journal

end Source

end MidiConsole
