import Mathlib.Data.List.Basic
import MidiConsole.Proofs.Showing

namespace MidiConsole

open Journaled

namespace Listing

theorem join_lines_eq (port : Port) (ports : List Port) :
    ∃ lines, String.join ((port :: ports).map fun port => port.line ++ "\n") = lines ++ "\n" := by
  induction ports generalizing port with
  | nil => exact ⟨port.line, by simp only [List.map_cons, List.map_nil, String.join_cons,
      String.join_nil, String.append_empty]⟩
  | cons next ports ih =>
      obtain ⟨lines, hlines⟩ := ih next
      refine ⟨port.line ++ "\n" ++ lines, ?_⟩
      rw [List.map_cons, String.join_cons, hlines, ← String.append_assoc]

theorem body_eq (remark : String) (ports : List Port) :
    ∃ lines, body remark ports = lines ++ "\n" := by
  cases ports with
  | nil => exact ⟨remark, rfl⟩
  | cons port ports => exact join_lines_eq port ports

end Listing

namespace Survey

theorem text_eq (survey : Survey) :
    ∃ lines, survey.text = Listing.inputHeader ++ lines ++ "\n" := by
  cases survey with
  | inputsFailed error =>
      refine ⟨"Error: " ++ error.message, ?_⟩
      simp only [text, errorLine, String.append_assoc]
  | outputsFailed inputs error =>
      refine ⟨Listing.inputBody inputs ++ Listing.outputHeader ++ "Error: " ++ error.message, ?_⟩
      simp only [text, errorLine, Backend.listedInputs, String.append_assoc]
  | complete inputs outputs =>
      obtain ⟨lines, hlines⟩ := Listing.body_eq Listing.noOutputs outputs
      refine ⟨Listing.inputBody inputs ++ Listing.outputHeader ++ lines, ?_⟩
      simp only [text, Listing.format, Listing.outputBody, hlines, String.append_assoc]

end Survey

namespace Backend

open Stage

/-- The stages of a refresh: those of the survey, and the notice of what it has found
out. -/
def refreshStages (backend : Backend) : List Stage :=
  backend.surveyStages ++
    (backend.survey?.map fun survey => Stage.logs (.refreshed survey.text)).toList

theorem not_passable_of_survey?_eq_none {backend : Backend} (h : backend.survey? = none)
    (sink : Sink) (earlier : List Notice) : ¬Passable sink earlier backend.surveyStages := by
  revert h
  rw [survey?, surveyStages]
  rcases backend.inputs.upcoming with (error | inputs) | text
  · rintro ⟨⟩
  · rcases backend.outputs.upcoming with (error | outputs) | text
    · rintro ⟨⟩
    · rintro ⟨⟩
    · rintro - ⟨-, hraised, -⟩
      cases hraised
  · rintro - ⟨hraised, -⟩
    cases hraised

theorem fetched_surveyed_eq (backend : Backend) (journal : Journal Query) :
    Source.fetched ⟨.surveyed backend, journal⟩ =
      match Stage.pass backend.refreshStages journal with
      | (none, journal) => (.ok ((backend.survey?.map Survey.text).getD ""), journal)
      | (some fault, journal) => (.error fault, journal) := by
  obtain ⟨events, hends, -⟩ := ends_pass backend.surveyStages journal
  rw [Source.fetched, Source.reply, Source.answer, Source.listing_surveyed, refreshStages,
    pass_append]
  generalize pass backend.surveyStages journal = passed at hends ⊢
  rcases passed with ⟨_ | fault, journal'⟩
  · rcases hends with hpass | _
    cases hsurvey : backend.survey? with
    | none => exact absurd hpass (not_passable_of_survey?_eq_none hsurvey _ _)
    | some survey =>
        simp only [Option.map_some, Option.getD_some, Option.toList_some, pass_logs]
        by_cases hfails : journal'.fails (.refreshed survey.text)
        · simp only [hfails, if_true]
        · simp only [hfails]
          rfl
  · rfl

/-- What a refresh comes to, and the events of it. -/
inductive Refresh (backend : Backend) (sink : Sink) (earlier : List Notice) :
    Except Fault String → List (Event Query) → Prop
  | complete {survey : Survey} (hsurvey : backend.survey? = some survey)
      (hpass : Passable sink earlier backend.refreshStages) :
      Refresh backend sink earlier (.ok survey.text)
        (survey.questions.map .noted ++ [.logged survey.notice, .logged (.refreshed survey.text)])
  | stopped (before after : List Stage) {stage : Stage} {fault : Fault}
      (hstages : backend.refreshStages = before ++ stage :: after)
      (hbefore : Passable sink earlier before)
      (hfault : stage.fault? sink (earlier ++ before.filterMap notice?) = some fault) :
      Refresh backend sink earlier (.error fault) ((before ++ [stage]).map event)

theorem map_event_refreshStages {backend : Backend} {survey : Survey}
    (h : backend.survey? = some survey) :
    backend.refreshStages.map event =
      survey.questions.map .noted ++ [.logged survey.notice, .logged (.refreshed survey.text)] := by
  rw [refreshStages, surveyStages_of_survey? h, h]
  cases survey <;> rfl

theorem refresh_fetched (backend : Backend) (journal : Journal Query) :
    ∃ result events, Refresh backend journal.sink journal.notices result events ∧
      Source.fetched ⟨.surveyed backend, journal⟩ =
        (result, { journal with events := journal.events ++ events }) := by
  obtain ⟨events, hends, hjournal⟩ := ends_pass backend.refreshStages journal
  rw [fetched_surveyed_eq]
  generalize pass backend.refreshStages journal = passed at hends hjournal ⊢
  rcases passed with ⟨fault, journal'⟩
  subst hjournal
  rcases hends with hpass | ⟨before, after, hstages, hbefore, hfault⟩
  · cases hsurvey : backend.survey? with
    | none =>
        rw [refreshStages, hsurvey, Option.map_none, Option.toList_none, List.append_nil] at hpass
        exact absurd hpass (not_passable_of_survey?_eq_none hsurvey _ _)
    | some survey =>
        refine ⟨.ok survey.text, _, .complete hsurvey hpass, ?_⟩
        rw [map_event_refreshStages hsurvey]
        rfl
  · exact ⟨_, _, .stopped before after hstages hbefore hfault, rfl⟩

end Backend

namespace Display

open Backend Source

variable {π μ : Type} [PanelSystem π μ]

namespace Happening

variable {o : Happening π μ} {index : Nat}

omit [PanelSystem π μ] in
theorem fetched_of_refresh? {w : World Query Source} (h : o.refresh? = some (index, w)) :
    fetched w = fetched ⟨o.before.source, w.journal⟩ := by
  rw [refresh?] at h
  split at h
  · split at h
    · cases h
      exact fetched_asked_version _ _
    · cases h
  · split at h
    · split at h
      · cases h
        rfl
      · cases h
    · cases h
  · cases h

omit [PanelSystem π μ] in
theorem refresh?_of_shownOn? {devices : String} (h : o.shownOn? index = some devices) :
    ∃ w, o.refresh? = some (index, w) ∧ (fetched w).1 = .ok devices := by
  obtain ⟨⟨screen, shown⟩, hshown, h⟩ := Option.bind_eq_some_iff.mp h
  obtain ⟨⟨refreshed, w⟩, hrefresh, hshown⟩ := Option.bind_eq_some_iff.mp hshown
  obtain ⟨found, hfound, heq⟩ := Option.map_eq_some_iff.mp hshown
  obtain ⟨rfl, rfl⟩ := Prod.mk.inj heq
  obtain ⟨rfl, hdevices⟩ := Option.ite_none_right_eq_some.mp h
  cases hdevices
  refine ⟨w, hrefresh, ?_⟩
  generalize (fetched w).1 = result at hfound ⊢
  cases result <;> cases hfound
  rfl

omit [PanelSystem π μ] in
theorem shownOn?_of_surveyed {backend : Backend} {devices : String}
    (hsource : o.before.source = .surveyed backend) (h : o.shownOn? index = some devices) :
    ∃ survey : Survey, devices = survey.text := by
  obtain ⟨w, hrefresh, hdevices⟩ := refresh?_of_shownOn? h
  obtain ⟨result, events, hcourse, hfetched⟩ := refresh_fetched backend w.journal
  rw [fetched_of_refresh? hrefresh, hsource, hfetched] at hdevices
  obtain rfl : result = .ok devices := hdevices
  cases hcourse with
  | @complete survey hsurvey hpass => exact ⟨survey, rfl⟩

end Happening

structure ShowsSurveys (display : Display π μ) : Prop where
  source : ∃ backend, display.source = .surveyed backend
  text_eq : ∀ (index : Nat) (screen : Screen π), display.screens[index]? = some screen →
    ∃ survey : Survey, screen.text = survey.text

variable {edition : π → Nat} {seen : μ → Option Nat}

theorem ShowsSurveys.next (hversioned : PanelSystem.Versioned π edition seen)
    {o : Happening π μ} (h : ShowsSurveys o.before) : ShowsSurveys o.after := by
  obtain ⟨backend, hsource⟩ := h.source
  constructor
  · rw [o.source_after, hsource]
    exact askedAll_surveyed o.requests backend
  · intro index screen
    have hpublished (old : Screen π) {devices : String} (hshown : o.shownOn? index = some devices) :
        ∃ survey : Survey, (old.publish devices).text = survey.text := by
      obtain ⟨survey, rfl⟩ := Happening.shownOn?_of_surveyed hsource hshown
      exact ⟨survey, hversioned.text_publish old.panel survey.text⟩
    have hturns := o.turns index
    generalize o.after.screens[index]? = after at hturns ⊢
    cases hturns with
    | stays hshown hcreation => exact h.text_eq index screen
    | created hnone hshown hcreation =>
        rintro ⟨⟩
        exact hpublished _ hshown
    | refreshed hcommand hrefreshes hscreen hshown hcreation =>
        rintro ⟨⟩
        exact hpublished _ hshown
    | @closed closed hcommand hscreen hshown hcreation =>
        rintro ⟨⟩
        exact h.text_eq index closed hscreen

theorem showsSurveys (hversioned : PanelSystem.Versioned π edition seen) (backend : Backend)
    (calls : List (Call Command)) :
    ShowsSurveys (leftBy ({ source := .surveyed backend } : Display π μ)
      (pastOf { source := .surveyed backend } calls)) := by
  refine past_induction ?_ ?_ calls
  · exact ⟨⟨backend, rfl⟩, fun index screen => nofun⟩
  · intro past display call h
    exact h.next (o := ⟨call, display⟩) hversioned

/-- A screen on which a listing has been published once. -/
structure Published (screen : Screen π) (devices : String) (shown : Screen π) : Prop where
  panel_eq : shown.panel = PanelSystem.publish screen.panel devices
  text_eq : shown.text = devices
  layout_eq : shown.layout = screen.layout
  versionLabel_eq : shown.versionLabel = screen.versionLabel
  isOpen_eq : shown.isOpen = screen.isOpen

theorem published_publish (hversioned : PanelSystem.Versioned π edition seen) (screen : Screen π)
    (devices : String) : Published screen devices (screen.publish devices) where
  panel_eq := rfl
  text_eq := hversioned.text_publish screen.panel devices
  layout_eq := rfl
  versionLabel_eq := rfl
  isOpen_eq := rfl

omit [PanelSystem π μ] in
theorem screens_changeScreen {display : Display π μ} {index : Nat} {screen : Screen π}
    (hscreen : display.screen? index = some screen) (change : Screen π → Screen π) :
    (display.changeScreen index change).screens = display.screens.set index (change screen) := by
  rw [changeScreen, List.modify_eq_set_getElem?, getElem?_of_screen? hscreen]
  rfl

theorem outcome_of_refresh_surveyed (hversioned : PanelSystem.Versioned π edition seen)
    {display : Display π μ} {backend : Backend} (hsource : display.source = .surveyed backend)
    {index : Nat} {screen : Screen π} (hscreen : display.screen? index = some screen)
    {command : ScreenCommand} (hrefreshes : command.refreshes) (sink : Sink) :
    ∃ result events screens, Refresh backend sink [] result events ∧
      attempt (perform (.screen index command)) sink display =
        ⟨result.map .text, events, ⟨.surveyed backend.surveyed, screens, display.viewers⟩⟩ ∧
      match result with
      | .ok devices => ∃ shown, Published screen devices shown ∧
          screens = display.screens.set index shown
      | .error _ => screens = display.screens := by
  have houtcome := Happening.outcome_of_refreshes
    (o := ⟨⟨.screen index command, sink⟩, display⟩) rfl hscreen hrefreshes
  obtain ⟨result, events, hcourse, hfetched⟩ := refresh_fetched backend { sink }
  rw [Happening.start, hsource, hfetched] at houtcome
  have hasked : display.asked .listing =
      ⟨.surveyed backend.surveyed, display.screens, display.viewers⟩ := by
    rw [asked, hsource]
    rfl
  cases result with
  | ok devices =>
      refine ⟨_, events, _, hcourse, houtcome.trans ?_, screen.publish devices,
        published_publish hversioned screen devices, rfl⟩
      rw [← screens_changeScreen hscreen fun screen => screen.publish devices]
      simp only [hasked]
      rfl
  | error fault =>
      refine ⟨_, events, _, hcourse, houtcome.trans ?_, rfl⟩
      simp only [hasked]
      rfl

theorem outcome_of_create_surveyed (hversioned : PanelSystem.Versioned π edition seen)
    {display : Display π μ} {backend : Backend} (hsource : display.source = .surveyed backend)
    (config : ScreenConfig) (sink : Sink) :
    match backend.names.upcoming with
    | .raises text =>
        attempt (perform (.create config)) sink display =
          ⟨.error (.raised text), [.noted .backends],
            ⟨.surveyed { backend with names := backend.names.advance }, display.screens,
              display.viewers⟩⟩
    | .returns name =>
        ∃ result events screens, Refresh backend sink [] result events ∧
          attempt (perform (.create config)) sink display =
            ⟨result.map fun _ => .created display.screens.length, .noted .backends :: events,
              ⟨.surveyed { backend with names := backend.names.advance }.surveyed, screens,
                display.viewers⟩⟩ ∧
          match result with
          | .ok devices => ∃ shown : Screen π,
              Published (Screen.blank config (versionText name)) devices shown ∧
                screens = display.screens ++ [shown]
          | .error _ => screens = display.screens := by
  have houtcome := Happening.outcome_of_create (o := ⟨⟨.create config, sink⟩, display⟩) rfl
  rw [Happening.start, hsource, reply, answer, version_surveyed] at houtcome
  have hasked : display.asked .version =
      ⟨.surveyed { backend with names := backend.names.advance }, display.screens,
        display.viewers⟩ := by
    rw [asked, hsource]
    rfl
  cases hname : backend.names.upcoming with
  | raises text =>
      simp only [hname, hasked] at houtcome
      exact houtcome
  | returns name =>
      obtain ⟨result, events, hcourse, hfetched⟩ :=
        refresh_fetched backend (Journal.add { sink } (.noted .backends))
      simp only [hname, fetched_asked_version, hfetched, hasked] at houtcome
      cases result with
      | ok devices =>
          let shown : Screen π := (Screen.blank config (versionText name)).publish devices
          exact ⟨_, events, display.screens ++ [shown], hcourse, houtcome, shown,
            published_publish hversioned _ devices, rfl⟩
      | error fault => exact ⟨_, events, display.screens, hcourse, houtcome, rfl⟩

/-- Refreshes of screens with a surveyed source are all-or-nothing. After every run, a
refresh asks for the inputs, asks for the outputs if the inputs are known, and logs the
notice of the survey and then the listing. If each of these goes well the listing is
published, once, and the screen shows it; else the first fault ends the refresh there, and
all screens and viewers stay as they are. The first refresh of a screen follows the
question for the version, and the screen is not added unless all goes well. What a screen
shows is always the text of a whole survey. -/
theorem refreshes_are_all_or_nothing (hversioned : PanelSystem.Versioned π edition seen)
    (backend : Backend) (calls : List (Call Command)) :
    let start : Display π μ := { source := .surveyed backend }
    let display := leftBy start (pastOf start calls)
    (∃ current, display.source = .surveyed current ∧
      (∀ index screen command sink, display.screen? index = some screen → command.refreshes →
        ∃ result events screens, Refresh current sink [] result events ∧
          attempt (perform (.screen index command)) sink display =
            ⟨result.map .text, events, ⟨.surveyed current.surveyed, screens, display.viewers⟩⟩ ∧
          match result with
          | .ok devices => ∃ shown, Published screen devices shown ∧
              screens = display.screens.set index shown
          | .error _ => screens = display.screens) ∧
      ∀ config sink,
        match current.names.upcoming with
        | .raises text =>
            attempt (perform (.create config)) sink display =
              ⟨.error (.raised text), [.noted .backends],
                ⟨.surveyed { current with names := current.names.advance }, display.screens,
                  display.viewers⟩⟩
        | .returns name =>
            ∃ result events screens, Refresh current sink [] result events ∧
              attempt (perform (.create config)) sink display =
                ⟨result.map fun _ => .created display.screens.length, .noted .backends :: events,
                  ⟨.surveyed { current with names := current.names.advance }.surveyed, screens,
                    display.viewers⟩⟩ ∧
              match result with
              | .ok devices => ∃ shown : Screen π,
                  Published (Screen.blank config (versionText name)) devices shown ∧
                    screens = display.screens ++ [shown]
              | .error _ => screens = display.screens) ∧
    (∀ survey : Survey, survey.notice.level = survey.level) ∧
    (∀ devices, (Notice.refreshed devices).level = .trace) ∧
    ∀ (index : Nat) (screen : Screen π), display.screens[index]? = some screen →
      ∃ survey : Survey, screen.text = survey.text ∧
        ∃ lines, survey.text = "=== MIDI Input Devices ===\n" ++ lines ++ "\n" := by
  intro start display
  have hshows : ShowsSurveys display := showsSurveys hversioned backend calls
  obtain ⟨current, hsource⟩ := hshows.source
  refine ⟨⟨current, hsource, ?_, ?_⟩, Survey.level_notice, fun _ => rfl, ?_⟩
  · intro index screen command sink hscreen hrefreshes
    exact outcome_of_refresh_surveyed hversioned hsource hscreen hrefreshes sink
  · exact outcome_of_create_surveyed hversioned hsource
  · intro index screen hscreen
    obtain ⟨survey, hsurvey⟩ := hshows.text_eq index screen hscreen
    exact ⟨survey, hsurvey, survey.text_eq⟩

/-- A backend with one port, whose outputs cannot be listed the second time. -/
def failingOutputs : Backend where
  names := .repeating [] "loopback"
  inputs := .repeating [] (.ok [{ number := 0, name := "keys" }])
  outputs := .repeating
    [.returns (.ok []), .returns (.error (.init ⟨"no sequencer", "InitError"⟩))] (.ok [])

def failingOutputsRun : List (Call Command) :=
  [⟨.create {}, Sink.sound⟩, ⟨.screen 0 .subscribe, Sink.sound⟩]

/-- A refresh of the only screen warns of the error and publishes it. If the log fails at the
last notice, the screen goes on to show the first listing. -/
theorem refresh_of_failingOutputsRun_publishes_or_stops :
    let start : Display Panel Mark := { source := .surveyed failingOutputs }
    let display := leftBy start (pastOf start failingOutputsRun)
    let refresh := fun sink => attempt (perform (.screen 0 .refresh)) sink display
    let listing := "=== MIDI Input Devices ===\nPort 0: keys\n\n=== MIDI Output Devices ===\n" ++
      "Error: no sequencer\n"
    (refresh Sink.sound).result = .ok (.text listing) ∧
      (refresh Sink.sound).events = [.noted .inputs, .noted .outputs,
        .logged (.listingFailed (.init ⟨"no sequencer", "InitError"⟩)),
        .logged (.refreshed listing)] ∧
      (refresh Sink.sound).state.screens.map Screen.text = [listing] ∧
      (refresh Sink.sound).state.viewers = display.viewers ∧
      (refresh (Sink.failingAt (some .trace))).result = .error .sink ∧
      (refresh (Sink.failingAt (some .trace))).state.screens = display.screens ∧
      (refresh (Sink.failingAt (some .trace))).state.viewers = display.viewers := by
  intro start display refresh listing
  have hopen : (display.screen? 0).isSome := by decide +kernel
  have hcount : display.screens.length = 1 := by decide +kernel
  have hpublished : (refresh Sink.sound).result = .ok (.text listing) := by decide +kernel
  have hstopped : (refresh (Sink.failingAt (some .trace))).result = .error .sink := by
    decide +kernel
  obtain ⟨screen, hscreen⟩ := Option.isSome_iff_exists.mp hopen
  obtain ⟨only, honly⟩ := List.length_eq_one_iff.mp hcount
  obtain ⟨⟨current, -, hrefreshes, -⟩, -⟩ :=
    refreshes_are_all_or_nothing Panel.versioned failingOutputs failingOutputsRun
  have hrefresh (sink : Sink) := hrefreshes 0 screen .refresh sink hscreen rfl
  refine ⟨hpublished, by decide +kernel, ?_, ?_, hstopped, ?_, ?_⟩
  · obtain ⟨result, events, screens, -, houtcome, hscreens⟩ := hrefresh Sink.sound
    change refresh Sink.sound = _ at houtcome
    rw [houtcome] at hpublished ⊢
    rcases result with fault | devices
    · cases hpublished
    · obtain ⟨shown, hshown, rfl⟩ := hscreens
      obtain rfl : devices = listing := Reply.text.inj (Except.ok.inj hpublished)
      change (display.screens.set 0 shown).map Screen.text = _
      rw [honly]
      exact congrArg ([·]) hshown.text_eq
  · obtain ⟨result, events, screens, -, houtcome, -⟩ := hrefresh Sink.sound
    exact congrArg (fun outcome => outcome.state.viewers) houtcome
  · obtain ⟨result, events, screens, -, houtcome, hscreens⟩ :=
      hrefresh (Sink.failingAt (some .trace))
    change refresh _ = _ at houtcome
    rw [houtcome] at hstopped ⊢
    rcases result with fault | devices
    · exact hscreens
    · cases hstopped
  · obtain ⟨result, events, screens, -, houtcome, -⟩ := hrefresh (Sink.failingAt (some .trace))
    exact congrArg (fun outcome => outcome.state.viewers) houtcome

end Display

end MidiConsole
