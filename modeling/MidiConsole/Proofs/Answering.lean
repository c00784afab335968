import MidiConsole.Proofs.Happenings

namespace MidiConsole

open Journaled

namespace Display

open Source

variable {π μ : Type} [PanelSystem π μ]

namespace Happening

variable {o : Happening π μ}

theorem requestsIn_of_create {config : ScreenConfig} (hcommand : o.call.command = .create config) :
    requestsIn o.outcome.events = o.requests := by
  have hversion := requestsIn_reply .version o.start
  rw [outcome_of_create hcommand, requests, hcommand]
  generalize reply .version o.start = replied at hversion ⊢
  rcases replied with ⟨fault | version, journal⟩
  · exact hversion
  · have hlisting := requestsIn_fetched ⟨o.before.source.asked .version, journal⟩
    rw [show requestsIn journal.events = [.version] from hversion] at hlisting
    simp only
    generalize fetched ⟨o.before.source.asked .version, journal⟩ = replied at hlisting ⊢
    rcases replied with ⟨fault | devices, journal⟩ <;> exact hlisting

theorem requestsIn_of_screen {index : Nat} {command : ScreenCommand} {screen : Screen π}
    (hcommand : o.call.command = .screen index command)
    (hscreen : o.before.screen? index = some screen) :
    requestsIn o.outcome.events = o.requests := by
  simp only [requests, hcommand, hscreen]
  cases command with
  | refresh | act action | click =>
      have hlisting := requestsIn_fetched o.start
      rw [outcome_of_refreshes hcommand hscreen rfl]
      generalize fetched o.start = replied at hlisting ⊢
      rcases replied with ⟨fault | devices, journal⟩ <;> exact hlisting
  | sourceVersion | sourceListing =>
      rw [outcome_of_request hcommand hscreen rfl rfl]
      exact requestsIn_reply _ o.start
  | text | versionLabel | layout | inspectLayout | render | subscribe | drop =>
      rw [outcome_of_screen hcommand hscreen]
      rfl

theorem requestsIn_outcome (o : Happening π μ) : requestsIn o.outcome.events = o.requests := by
  cases hcommand : o.call.command with
  | create config => exact requestsIn_of_create hcommand
  | screen index command =>
      cases hscreen : o.before.screen? index with
      | some screen => exact requestsIn_of_screen hcommand hscreen
      | none =>
          rw [outcome_of_missing_screen hcommand hscreen]
          simp only [requests, hcommand, hscreen]
          rfl
  | viewer index command =>
      have hrequests : o.requests = [] := by simp only [requests, hcommand]
      rw [hrequests]
      cases hviewer : o.before.viewer? index with
      | none =>
          rw [outcome_of_missing_viewer hcommand hviewer]
          rfl
      | some watching =>
          rw [outcome_of_viewer hcommand hviewer]
          cases command <;> rfl

end Happening

theorem flatMap_requests_history (display : Display π μ) (calls : List (Call Command)) :
    (history perform display calls).flatMap (fun outcome => requestsIn outcome.events) =
      (pastOf display calls).reverse.flatMap Happening.requests := by
  rw [history_eq, List.flatMap_map, pastOf, List.reverse_reverse]
  exact congrArg (fun requests => (happenings display calls).flatMap requests)
    (funext Happening.requestsIn_outcome)

theorem source_leftBy (source : Source) (calls : List (Call Command)) :
    let start : Display π μ := { source }
    (leftBy start (pastOf start calls)).source =
      source.askedAll ((pastOf start calls).reverse.flatMap Happening.requests) := by
  intro start
  refine past_induction rfl ?_ calls
  intro past display call h
  rw [Happening.source_after, List.reverse_cons, List.flatMap_append, askedAll_append, ← h,
    List.flatMap_singleton]

/-- Requests are answered in turn. In every run the requests of a call are those that its
command has, shown by the events of the call. After the run, a request gets what a source
gives that has only been asked for as much of this kind as the events of the run show; a
plain source gives the next answer of its script. Somebody who looks through a screen gets
that answer, a refresh shows the listing, and a creation adds nothing if a fault comes of
either request, with the requests made all the same. -/
theorem requests_answered_in_turn (source : Source) (calls : List (Call Command)) :
    let start : Display π μ := { source }
    let display := leftBy start (pastOf start calls)
    let requests := (history perform start calls).flatMap fun outcome => requestsIn outcome.events
    let turn (request : Request) : Source := (Source.asked request)^[requests.count request] source
    (history perform start calls).map (fun outcome => requestsIn outcome.events) =
      (happenings start calls).map Happening.requests ∧
    (∀ versions listings, source = .plain versions listings → ∀ journal,
      (reply .version ⟨turn .version, journal⟩).1 =
        (versions.answer (versions.asked + requests.count .version)).result ∧
      (reply .listing ⟨turn .listing, journal⟩).1 =
        (listings.answer (listings.asked + requests.count .listing)).result) ∧
    (∀ index screen command request sink, display.screen? index = some screen →
      command.refreshes = false → command.request? = some request →
      attempt (perform (.screen index command)) sink display =
        match reply request ⟨turn request, { sink }⟩ with
        | (answer, journal) => ⟨answer.map .text, journal.events, display.asked request⟩) ∧
    (∀ index screen command sink, display.screen? index = some screen → command.refreshes →
      attempt (perform (.screen index command)) sink display =
        match fetched ⟨turn .listing, { sink }⟩ with
        | (.ok devices, journal) =>
            ⟨.ok (.text devices), journal.events,
              (display.asked .listing).changeScreen index fun screen => screen.publish devices⟩
        | (.error fault, journal) => ⟨.error fault, journal.events, display.asked .listing⟩) ∧
    ∀ config sink,
      attempt (perform (.create config)) sink display =
        match reply .version ⟨turn .version, { sink }⟩ with
        | (.error fault, journal) => ⟨.error fault, journal.events, display.asked .version⟩
        | (.ok version, journal) =>
            match fetched ⟨turn .listing, journal⟩ with
            | (.error fault, journal) =>
                ⟨.error fault, journal.events, (display.asked .version).asked .listing⟩
            | (.ok devices, journal) =>
                ⟨.ok (.created display.screens.length), journal.events,
                  ((display.asked .version).asked .listing).addScreen
                    ((Screen.blank config version).publish devices)⟩ := by
  intro start display requests turn
  have hsource : display.source = source.askedAll requests := by
    rw [source_leftBy, ← flatMap_requests_history]
  have hreply (request : Request) (journal : Journal Query) :
      reply request ⟨display.source, journal⟩ = reply request ⟨turn request, journal⟩ := by
    rw [hsource, reply_askedAll]
  have hfetched (journal : Journal Query) :
      fetched ⟨display.source, journal⟩ = fetched ⟨turn .listing, journal⟩ := by
    rw [hsource, fetched_askedAll]
  refine ⟨?_, ?_, ?_, ?_, ?_⟩
  · rw [history_eq, List.map_map]
    exact List.map_congr_left fun o _ => o.requestsIn_outcome
  · rintro versions listings rfl journal
    exact ⟨reply_plain .version _ versions listings journal,
      reply_plain .listing _ versions listings journal⟩
  · intro index screen command request sink hscreen hrefreshes hrequest
    rw [← hreply]
    exact Happening.outcome_of_request (o := ⟨⟨.screen index command, sink⟩, display⟩) rfl hscreen
      hrefreshes hrequest
  · intro index screen command sink hscreen hrefreshes
    rw [← hfetched]
    exact Happening.outcome_of_refreshes (o := ⟨⟨.screen index command, sink⟩, display⟩) rfl
      hscreen hrefreshes
  · intro config sink
    have houtcome := Happening.outcome_of_create (o := ⟨⟨.create config, sink⟩, display⟩) rfl
    simp only [fetched_asked_version, Happening.start, hfetched, hreply] at houtcome
    exact houtcome

/-- A run in which the second screen cannot be created: the source has no listing for it. -/
def missingListingSource : Source :=
  .plain (.repeating [] "1.0") (.repeating [.returns "keys", .raises "gone", .returns "pads"] "")

def missingListingRun : List (Call Command) :=
  [⟨.create {}, Sink.sound⟩, ⟨.create {}, Sink.sound⟩]

theorem missingListingRun_answered_in_turn :
    let start : Display Panel Mark := { source := missingListingSource }
    let display := leftBy start (pastOf start missingListingRun)
    (history perform start missingListingRun).flatMap (fun outcome => requestsIn outcome.events) =
        [.version, .listing, .version, .listing] ∧
      display.screens.length = 1 ∧
      (attempt (perform (.screen 0 .sourceListing)) Sink.sound display).result =
        .ok (.text "pads") := by
  intro start display
  have hrequests : (history perform start missingListingRun).flatMap
      (fun outcome => requestsIn outcome.events) = [.version, .listing, .version, .listing] := by
    decide +kernel
  have hlength : display.screens.length = 1 := by decide +kernel
  have hopen : (display.screen? 0).isSome := by decide +kernel
  obtain ⟨screen, hscreen⟩ := Option.isSome_iff_exists.mp hopen
  obtain ⟨-, hplain, hrequest, -⟩ :=
    requests_answered_in_turn (π := Panel) missingListingSource missingListingRun
  have hpads := (hplain _ _ rfl { sink := Sink.sound }).2.trans
    (show _ = Except.ok "pads" by decide +kernel)
  have houtcome := hrequest 0 screen .sourceListing .listing Sink.sound hscreen rfl rfl
  refine ⟨hrequests, hlength, ?_⟩
  rw [houtcome]
  exact congrArg (Except.map Reply.text) hpads

end Display

end MidiConsole
