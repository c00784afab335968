import Mathlib.Data.List.Induction
import MidiConsole.Proofs.Requests
import MidiConsole.Screen.Display

/-!
What happens to a display. A happening is a call with the display that it finds. What it
does is told by the call and the reply: a screen is created, refreshed or closed, a
viewer begins to watch, has seen the panel, learns of news or forgets what it has seen.

The main statement says for each of these what is left of the display, what the source
has been asked for, and which listing a screen shows from then on.
-/

namespace MidiConsole

open Journaled

namespace Display

open Source

namespace ScreenCommand

def refreshes : ScreenCommand → Bool
  | refresh | act _ | click => true
  | _ => false

def request? : ScreenCommand → Option Request
  | refresh | act _ | click | sourceListing => some .listing
  | sourceVersion => some .version
  | _ => none

theorem request?_of_refreshes {command : ScreenCommand} (h : command.refreshes) :
    command.request? = some .listing := by
  cases command with
  | refresh | act action | click => rfl
  | _ => cases h

end ScreenCommand

/-- A call, and the display that it finds. -/
structure Happening (π μ : Type) where
  call : Call Command
  before : Display π μ

/-- What a call does that goes well. -/
inductive Deed where
  | created (config : ScreenConfig)
  | refreshed (screen : Nat)
  | closed (screen : Nat)
  | subscribed (screen : Nat)
  | acknowledged (viewer : Nat)
  | told (viewer : Nat)
  | forgot (viewer : Nat)
  | cloned (viewer : Nat)
  deriving DecidableEq

def deedOf? : Command → Reply → Option Deed
  | .create config, .created _ => some (.created config)
  | .screen index .subscribe, .subscribed _ => some (.subscribed index)
  | .screen index .drop, .dropped true => some (.closed index)
  | .screen index command, .text _ => if command.refreshes then some (.refreshed index) else none
  | .viewer index .acknowledge, .text _ => some (.acknowledged index)
  | .viewer index .poll, .news .changed => some (.told index)
  | .viewer index .forget, .forgotten => some (.forgot index)
  | .viewer index .clone, .subscribed _ => some (.cloned index)
  | _, _ => none

theorem deedOf?_of_refreshes {command : ScreenCommand} (h : command.refreshes) (index : Nat)
    (text : String) : deedOf? (.screen index command) (.text text) = some (.refreshed index) := by
  cases command with
  | refresh | act action | click => rfl
  | _ => cases h

variable {π μ : Type}

def asked (request : Request) (display : Display π μ) : Display π μ :=
  { display with source := display.source.asked request }

theorem onSource_answer_apply (request : Request) (w : World Query (Display π μ)) :
    onSource (answer request) w =
      match reply request ⟨w.state.source, w.journal⟩ with
      | (.ok text, journal) => .ok text ⟨w.state.asked request, journal⟩
      | (.error fault, journal) => .error fault ⟨w.state.asked request, journal⟩ := by
  rw [onSource, Journaled.within, answer_apply]
  rcases reply request ⟨w.state.source, w.journal⟩ with ⟨fault | text, journal⟩ <;> rfl

theorem fetch_apply (w : World Query (Display π μ)) :
    fetch w =
      match fetched ⟨w.state.source, w.journal⟩ with
      | (.ok devices, journal) => .ok devices ⟨w.state.asked .listing, journal⟩
      | (.error fault, journal) => .error fault ⟨w.state.asked .listing, journal⟩ := by
  have h := onSource_answer_apply .listing w
  rw [answer] at h
  rw [fetch, bind_apply, h, fetched]
  rcases reply .listing ⟨w.state.source, w.journal⟩ with ⟨fault | devices, journal⟩
  · rfl
  · simp only [bind_apply, log_apply]
    by_cases hfails : journal.fails (.refreshed devices)
    · simp only [hfails, if_true]
    · simp only [hfails]
      rfl

variable [PanelSystem π μ]

theorem refresh_apply (index : Nat) (w : World Query (Display π μ)) :
    refresh index w =
      match fetched ⟨w.state.source, w.journal⟩ with
      | (.ok devices, journal) =>
          .ok (.text devices)
            ⟨(w.state.asked .listing).changeScreen index fun screen => screen.publish devices,
              journal⟩
      | (.error fault, journal) => .error fault ⟨w.state.asked .listing, journal⟩ := by
  rw [refresh, bind_apply, fetch_apply]
  rcases fetched ⟨w.state.source, w.journal⟩ with ⟨fault | devices, journal⟩ <;> rfl

theorem create_apply (config : ScreenConfig) (w : World Query (Display π μ)) :
    create config w =
      match reply .version ⟨w.state.source, w.journal⟩ with
      | (.error fault, journal) => .error fault ⟨w.state.asked .version, journal⟩
      | (.ok version, journal) =>
          match fetched ⟨w.state.source.asked .version, journal⟩ with
          | (.error fault, journal) =>
              .error fault ⟨(w.state.asked .version).asked .listing, journal⟩
          | (.ok devices, journal) =>
              .ok (.created w.state.screens.length)
                ⟨((w.state.asked .version).asked .listing).addScreen
                  ((Screen.blank config version).publish devices), journal⟩ := by
  have h := onSource_answer_apply .version w
  rw [answer] at h
  rw [create, bind_apply, h]
  rcases reply .version ⟨w.state.source, w.journal⟩ with ⟨fault | version, journal⟩
  · rfl
  · simp only [bind_apply, fetch_apply, asked]
    rcases fetched ⟨w.state.source.asked .version, journal⟩ with ⟨fault | devices, journal⟩ <;> rfl

namespace Happening

def outcome (o : Happening π μ) : Outcome Query (Display π μ) Reply :=
  attempt (perform o.call.command) o.call.sink o.before

def after (o : Happening π μ) : Display π μ :=
  o.outcome.state

omit [PanelSystem π μ] in
def start (o : Happening π μ) : World Query Source :=
  ⟨o.before.source, { sink := o.call.sink }⟩

/-- The requests of a call, in their order. A screen that is to be created asks for a
listing only once it has the version. -/
def requests (o : Happening π μ) : List Request :=
  match o.call.command with
  | .create _ =>
      match (reply .version o.start).1 with
      | .ok _ => [.version, .listing]
      | .error _ => [.version]
  | .screen index command =>
      match o.before.screen? index with
      | some _ => command.request?.toList
      | none => []
  | .viewer _ _ => []

/-- The screen that a call refreshes, and the source as it is asked for the listing. -/
def refresh? (o : Happening π μ) : Option (Nat × World Query Source) :=
  match o.call.command with
  | .create _ =>
      match reply .version o.start with
      | (.ok _, journal) =>
          some (o.before.screens.length, ⟨o.before.source.asked .version, journal⟩)
      | (.error _, _) => none
  | .screen index command =>
      match o.before.screen? index with
      | some _ => if command.refreshes then some (index, o.start) else none
      | none => none
  | .viewer _ _ => none

/-- The screen whose refresh has been completed, and the listing for it: neither the
request for the listing nor the notice of it has brought a fault. -/
def shown? (o : Happening π μ) : Option (Nat × String) :=
  o.refresh?.bind fun (index, w) => (fetched w).1.toOption.map fun devices => (index, devices)

def deed? (o : Happening π μ) : Option Deed :=
  match o.outcome.result with
  | .ok reply => deedOf? o.call.command reply
  | .error _ => none

def ready (o : Happening π μ) : Display π μ :=
  { o.before with source := o.before.source.askedAll o.requests }

/-- What a call does, which screen shows which listing from then on, and what becomes of
the display. -/
inductive Does (o : Happening π μ) :
    Option Deed → Option (Nat × String) → Display π μ → Prop
  | nothing : Does o none none o.ready
  | created {config : ScreenConfig} {version devices : String}
      (hcommand : o.call.command = .create config)
      (hresult : o.outcome.result = .ok (.created o.before.screens.length))
      (hversion : (reply .version o.start).1 = .ok version) :
      Does o (some (.created config)) (some (o.before.screens.length, devices))
        (o.ready.addScreen ((Screen.blank config version).publish devices))
  | refreshed {index : Nat} {command : ScreenCommand} {screen : Screen π} {devices : String}
      (hcommand : o.call.command = .screen index command) (hrefreshes : command.refreshes)
      (hscreen : o.before.screen? index = some screen) :
      Does o (some (.refreshed index)) (some (index, devices))
        (o.ready.changeScreen index fun screen => screen.publish devices)
  | closed {index : Nat} {screen : Screen π} (hcommand : o.call.command = .screen index .drop)
      (hscreen : o.before.screen? index = some screen) :
      Does o (some (.closed index)) none (o.ready.changeScreen index Screen.close)
  | subscribed {index : Nat} {screen : Screen π}
      (hscreen : o.before.screen? index = some screen)
      (hresult : o.outcome.result = .ok (.subscribed o.before.viewers.length)) :
      Does o (some (.subscribed index)) none
        (o.ready.addViewer (Viewer.watching index screen.panel))
  | acknowledged {index : Nat} {viewer : Viewer μ} {screen : Screen π}
      (hviewer : o.before.viewer? index = some (viewer, screen)) :
      Does o (some (.acknowledged index)) none
        (o.ready.setViewer index (viewer.acknowledge screen.panel))
  | told {index : Nat} {viewer : Viewer μ} {screen : Screen π}
      (hviewer : o.before.viewer? index = some (viewer, screen))
      (hnews : (screen.look viewer.mark).1 = .changed) :
      Does o (some (.told index)) none
        (o.ready.setViewer index { viewer with mark := (screen.look viewer.mark).2 })
  | looked {index : Nat} {viewer : Viewer μ} {screen : Screen π}
      (hviewer : o.before.viewer? index = some (viewer, screen))
      (hnews : (screen.look viewer.mark).1 ≠ .changed) :
      Does o none none
        (o.ready.setViewer index { viewer with mark := (screen.look viewer.mark).2 })
  | forgot {index : Nat} {viewer : Viewer μ} {screen : Screen π}
      (hviewer : o.before.viewer? index = some (viewer, screen)) :
      Does o (some (.forgot index)) none (o.ready.setViewer index (viewer.forget π))
  | cloned {index : Nat} {viewer : Viewer μ} {screen : Screen π}
      (hviewer : o.before.viewer? index = some (viewer, screen))
      (hresult : o.outcome.result = .ok (.subscribed o.before.viewers.length)) :
      Does o (some (.cloned index)) none (o.ready.addViewer (viewer.copy π))

variable {o : Happening π μ}

theorem outcome_of_screen {index : Nat} {command : ScreenCommand} {screen : Screen π}
    (hcommand : o.call.command = .screen index command)
    (hscreen : o.before.screen? index = some screen) :
    o.outcome = attempt (performOnScreen index screen command) o.call.sink o.before := by
  rw [outcome, hcommand, attempt, attempt, perform, bind_apply, reading_apply]
  simp only [hscreen]

theorem outcome_of_viewer {index : Nat} {command : ViewerCommand} {viewer : Viewer μ}
    {screen : Screen π} (hcommand : o.call.command = .viewer index command)
    (hviewer : o.before.viewer? index = some (viewer, screen)) :
    o.outcome = attempt (performOnViewer index viewer screen command) o.call.sink o.before := by
  rw [outcome, hcommand, attempt, attempt, perform, bind_apply, reading_apply]
  simp only [hviewer]

theorem performOnScreen_of_refreshes {command : ScreenCommand} (h : command.refreshes)
    (index : Nat) (screen : Screen π) :
    performOnScreen (μ := μ) index screen command = refresh index := by
  cases command with
  | act action =>
      cases action
      rfl
  | refresh | click => rfl
  | _ => cases h

theorem outcome_of_refreshes {index : Nat} {command : ScreenCommand} {screen : Screen π}
    (hcommand : o.call.command = .screen index command)
    (hscreen : o.before.screen? index = some screen) (hrefreshes : command.refreshes) :
    o.outcome =
      match fetched o.start with
      | (.ok devices, journal) =>
          ⟨.ok (.text devices), journal.events,
            (o.before.asked .listing).changeScreen index fun screen => screen.publish devices⟩
      | (.error fault, journal) => ⟨.error fault, journal.events, o.before.asked .listing⟩ := by
  rw [outcome_of_screen hcommand hscreen, performOnScreen_of_refreshes hrefreshes, attempt,
    refresh_apply, start]
  rcases fetched ⟨o.before.source, { sink := o.call.sink }⟩ with ⟨fault | devices, journal⟩ <;> rfl

theorem outcome_of_create {config : ScreenConfig} (hcommand : o.call.command = .create config) :
    o.outcome =
      match reply .version o.start with
      | (.error fault, journal) => ⟨.error fault, journal.events, o.before.asked .version⟩
      | (.ok version, journal) =>
          match fetched ⟨o.before.source.asked .version, journal⟩ with
          | (.error fault, journal) =>
              ⟨.error fault, journal.events, (o.before.asked .version).asked .listing⟩
          | (.ok devices, journal) =>
              ⟨.ok (.created o.before.screens.length), journal.events,
                ((o.before.asked .version).asked .listing).addScreen
                  ((Screen.blank config version).publish devices)⟩ := by
  rw [outcome, hcommand, attempt, perform, create_apply, start]
  rcases reply .version ⟨o.before.source, { sink := o.call.sink }⟩ with ⟨fault | version, journal⟩
  · rfl
  · simp only
    rcases fetched ⟨o.before.source.asked .version, journal⟩ with ⟨fault | devices, journal⟩ <;> rfl

theorem performOnScreen_of_request? {command : ScreenCommand} {request : Request}
    (hrefreshes : command.refreshes = false) (hrequest : command.request? = some request)
    (index : Nat) (screen : Screen π) :
    performOnScreen (μ := μ) index screen command = Reply.text <$> onSource (answer request) := by
  cases command <;> cases hrefreshes <;> cases hrequest <;> rfl

theorem outcome_of_request {index : Nat} {command : ScreenCommand} {screen : Screen π}
    {request : Request} (hcommand : o.call.command = .screen index command)
    (hscreen : o.before.screen? index = some screen) (hrefreshes : command.refreshes = false)
    (hrequest : command.request? = some request) :
    o.outcome =
      ⟨(reply request o.start).1.map .text, (reply request o.start).2.events,
        o.before.asked request⟩ := by
  rw [outcome_of_screen hcommand hscreen, performOnScreen_of_request? hrefreshes hrequest, attempt,
    map_apply, onSource_answer_apply, start]
  rcases reply request ⟨o.before.source, { sink := o.call.sink }⟩ with ⟨fault | text, journal⟩ <;>
    rfl

theorem does_of_ok {reply : Reply} {events : List (Event Query)} {deed : Option Deed}
    {shown : Option (Nat × String)} {display : Display π μ}
    (houtcome : o.outcome = ⟨.ok reply, events, display⟩)
    (hdeed : deedOf? o.call.command reply = deed) (hshown : o.shown? = shown)
    (h : Does o deed shown display) : Does o o.deed? o.shown? o.after := by
  subst hdeed hshown
  rwa [deed?, after, houtcome]

theorem does_of_error {fault : Fault} {events : List (Event Query)}
    (houtcome : o.outcome = ⟨.error fault, events, o.ready⟩) (hshown : o.shown? = none) :
    Does o o.deed? o.shown? o.after := by
  rw [deed?, after, houtcome, hshown]
  exact .nothing

theorem does_of_create {config : ScreenConfig} (hcommand : o.call.command = .create config) :
    Does o o.deed? o.shown? o.after := by
  have houtcome := outcome_of_create hcommand
  rcases hversion : reply .version o.start with ⟨fault | version, journal⟩
  · have hready : o.ready = o.before.asked .version := by
      simp only [ready, requests, hcommand, hversion]
      rfl
    have hshown : o.shown? = none := by
      simp only [shown?, refresh?, hcommand, hversion, Option.bind_none]
    simp only [hversion, ← hready] at houtcome
    exact does_of_error houtcome hshown
  · have hready : o.ready = (o.before.asked .version).asked .listing := by
      simp only [ready, requests, hcommand, hversion]
      rfl
    simp only [hversion, ← hready] at houtcome
    rcases hfetched : fetched ⟨o.before.source.asked .version, journal⟩ with
      ⟨fault | devices, journal⟩
    · have hshown : o.shown? = none := by
        simp only [shown?, refresh?, hcommand, hversion, Option.bind_some, hfetched]
        rfl
      simp only [hfetched] at houtcome
      exact does_of_error houtcome hshown
    · have hshown : o.shown? = some (o.before.screens.length, devices) := by
        simp only [shown?, refresh?, hcommand, hversion, Option.bind_some, hfetched]
        rfl
      simp only [hfetched] at houtcome
      refine does_of_ok houtcome (by rw [hcommand]; rfl) hshown (.created hcommand ?_ ?_)
      · rw [houtcome]
      · rw [hversion]

theorem does_of_refreshes {index : Nat} {command : ScreenCommand} {screen : Screen π}
    (hcommand : o.call.command = .screen index command)
    (hscreen : o.before.screen? index = some screen) (hrefreshes : command.refreshes) :
    Does o o.deed? o.shown? o.after := by
  have houtcome := outcome_of_refreshes hcommand hscreen hrefreshes
  have hrefresh : o.refresh? = some (index, o.start) := by
    simp only [refresh?, hcommand, hscreen, hrefreshes, if_true]
  have hready : o.ready = o.before.asked .listing := by
    simp only [ready, requests, hcommand, hscreen, ScreenCommand.request?_of_refreshes hrefreshes]
    rfl
  rcases hfetched : fetched o.start with ⟨fault | devices, journal⟩
  · have hshown : o.shown? = none := by
      simp only [shown?, hrefresh, Option.bind_some, hfetched]
      rfl
    simp only [hfetched, ← hready] at houtcome
    exact does_of_error houtcome hshown
  · have hshown : o.shown? = some (index, devices) := by
      simp only [shown?, hrefresh, Option.bind_some, hfetched]
      rfl
    have hdeed : deedOf? o.call.command (.text devices) = some (.refreshed index) := by
      rw [hcommand, deedOf?_of_refreshes hrefreshes]
    simp only [hfetched, ← hready] at houtcome
    exact does_of_ok houtcome hdeed hshown (.refreshed hcommand hrefreshes hscreen)

theorem does_of_reading {reply : Reply}
    (houtcome : o.outcome = attempt (pure reply) o.call.sink o.before)
    (hdeed : deedOf? o.call.command reply = none) (hshown : o.shown? = none)
    (hready : o.ready = o.before) : Does o o.deed? o.shown? o.after := by
  change o.outcome = ⟨.ok reply, [], o.before⟩ at houtcome
  rw [← hready] at houtcome
  exact does_of_ok houtcome hdeed hshown .nothing

theorem does_of_request {request : Request} {events : List (Event Query)}
    {replied : Except Fault String}
    (houtcome : o.outcome =
      ⟨replied.map .text, events, o.before.asked request⟩)
    (hdeed : ∀ text, deedOf? o.call.command (.text text) = none) (hshown : o.shown? = none)
    (hready : o.ready = o.before.asked request) : Does o o.deed? o.shown? o.after := by
  rw [← hready] at houtcome
  cases replied with
  | error fault => exact does_of_error houtcome hshown
  | ok text => exact does_of_ok houtcome (hdeed text) hshown .nothing

theorem does_of_screen {index : Nat} {command : ScreenCommand} {screen : Screen π}
    (hcommand : o.call.command = .screen index command)
    (hscreen : o.before.screen? index = some screen) (hrefreshes : command.refreshes = false) :
    Does o o.deed? o.shown? o.after := by
  have houtcome := outcome_of_screen hcommand hscreen
  have hshown : o.shown? = none := by
    simp only [shown?, refresh?, hcommand, hscreen, hrefreshes]
    rfl
  have hready : o.ready = { o.before with
      source := o.before.source.askedAll command.request?.toList } := by
    simp only [ready, requests, hcommand, hscreen]
  have hdeed (reply : Reply) :
      deedOf? o.call.command reply = deedOf? (.screen index command) reply := by
    rw [hcommand]
  cases command with
  | refresh | act action | click => cases hrefreshes
  | text | versionLabel | layout | inspectLayout | render =>
      exact does_of_reading houtcome (hdeed _) hshown hready
  | sourceVersion | sourceListing =>
      exact does_of_request (outcome_of_request hcommand hscreen rfl rfl)
        (fun text => hdeed (.text text)) hshown hready
  | subscribe =>
      change o.outcome = ⟨.ok (.subscribed o.before.viewers.length), [],
        o.before.addViewer (Viewer.watching index screen.panel)⟩ at houtcome
      rw [← show o.ready = o.before from hready] at houtcome
      exact does_of_ok houtcome (hdeed _) hshown (.subscribed hscreen (by rw [houtcome]; rfl))
  | drop =>
      change o.outcome = ⟨.ok (.dropped true), [], o.before.changeScreen index Screen.close⟩
        at houtcome
      rw [← show o.ready = o.before from hready] at houtcome
      exact does_of_ok houtcome (hdeed _) hshown (.closed hcommand hscreen)

theorem does_of_viewer {index : Nat} {command : ViewerCommand} {viewer : Viewer μ}
    {screen : Screen π} (hcommand : o.call.command = .viewer index command)
    (hviewer : o.before.viewer? index = some (viewer, screen)) :
    Does o o.deed? o.shown? o.after := by
  have houtcome := outcome_of_viewer hcommand hviewer
  have hshown : o.shown? = none := by
    simp only [shown?, refresh?, hcommand, Option.bind_none]
  have hready : o.ready = o.before := by
    simp only [ready, requests, hcommand]
    rfl
  have hdeed (reply : Reply) :
      deedOf? o.call.command reply = deedOf? (.viewer index command) reply := by
    rw [hcommand]
  cases command with
  | read =>
      change o.outcome = ⟨.ok (.text screen.text), [], o.before⟩ at houtcome
      rw [← hready] at houtcome
      exact does_of_ok houtcome (hdeed _) hshown .nothing
  | acknowledge =>
      change o.outcome = ⟨.ok (.text screen.text), [],
        o.before.setViewer index (viewer.acknowledge screen.panel)⟩ at houtcome
      rw [← hready] at houtcome
      exact does_of_ok houtcome (hdeed _) hshown (.acknowledged hviewer)
  | forget =>
      change o.outcome = ⟨.ok .forgotten, [], o.before.setViewer index (viewer.forget π)⟩
        at houtcome
      rw [← hready] at houtcome
      exact does_of_ok houtcome (hdeed _) hshown (.forgot hviewer)
  | poll =>
      change o.outcome = ⟨.ok (.news (screen.look viewer.mark).1), [],
        o.before.setViewer index { viewer with mark := (screen.look viewer.mark).2 }⟩ at houtcome
      rw [← hready] at houtcome
      cases hnews : (screen.look viewer.mark).1 with
      | changed =>
          rw [hnews] at houtcome
          exact does_of_ok houtcome (hdeed _) hshown (.told hviewer hnews)
      | orphaned | pending =>
          rw [hnews] at houtcome
          exact does_of_ok houtcome (hdeed _) hshown (.looked hviewer (by rw [hnews]; decide))
  | clone =>
      change o.outcome = ⟨.ok (.subscribed o.before.viewers.length), [],
        o.before.addViewer (viewer.copy π)⟩ at houtcome
      rw [← hready] at houtcome
      exact does_of_ok houtcome (hdeed _) hshown (.cloned hviewer (by rw [houtcome]; rfl))

theorem outcome_of_missing_screen {index : Nat} {command : ScreenCommand}
    (hcommand : o.call.command = .screen index command) (hscreen : o.before.screen? index = none) :
    o.outcome = ⟨.ok (missingScreen command), [], o.before⟩ := by
  rw [outcome, hcommand, attempt, perform, bind_apply, reading_apply]
  simp only [hscreen]
  rfl

theorem outcome_of_missing_viewer {index : Nat} {command : ViewerCommand}
    (hcommand : o.call.command = .viewer index command) (hviewer : o.before.viewer? index = none) :
    o.outcome = ⟨.ok .noViewer, [], o.before⟩ := by
  rw [outcome, hcommand, attempt, perform, bind_apply, reading_apply]
  simp only [hviewer]
  rfl

theorem does (o : Happening π μ) : Does o o.deed? o.shown? o.after := by
  cases hcommand : o.call.command with
  | create config => exact does_of_create hcommand
  | screen index command =>
      cases hscreen : o.before.screen? index with
      | some screen =>
          cases hrefreshes : command.refreshes with
          | true => exact does_of_refreshes hcommand hscreen hrefreshes
          | false => exact does_of_screen hcommand hscreen hrefreshes
      | none =>
          refine does_of_reading (outcome_of_missing_screen hcommand hscreen) ?_ ?_ ?_
          · rw [hcommand]
            cases command <;> rfl
          · simp only [shown?, refresh?, hcommand, hscreen, Option.bind_none]
          · simp only [ready, requests, hcommand, hscreen]
            rfl
  | viewer index command =>
      cases hviewer : o.before.viewer? index with
      | some watching => exact does_of_viewer hcommand hviewer
      | none =>
          refine does_of_reading (outcome_of_missing_viewer hcommand hviewer) ?_ ?_ ?_
          · rw [hcommand]
            cases command <;> rfl
          · simp only [shown?, refresh?, hcommand, Option.bind_none]
          · simp only [ready, requests, hcommand]
            rfl

theorem source_after (o : Happening π μ) :
    o.after.source = o.before.source.askedAll o.requests := by
  have hdoes := o.does
  generalize o.deed? = deed at hdoes
  generalize o.shown? = shown at hdoes
  generalize o.after = display at hdoes ⊢
  cases hdoes <;> rfl

end Happening

def happenings : Display π μ → List (Call Command) → List (Happening π μ)
  | _, [] => []
  | display, call :: calls =>
      ⟨call, display⟩ :: happenings (Happening.mk call display).after calls

/-- The display that happenings leave, the last of which stands first. -/
def leftBy (display : Display π μ) : List (Happening π μ) → Display π μ
  | [] => display
  | o :: _ => o.after

/-- The past of a display to which calls have led, from its last happening back to the
first. -/
def pastOf (display : Display π μ) (calls : List (Call Command)) : List (Happening π μ) :=
  (happenings display calls).reverse

theorem history_eq (display : Display π μ) (calls : List (Call Command)) :
    history perform display calls = (happenings display calls).map Happening.outcome := by
  induction calls generalizing display with
  | nil => rfl
  | cons call calls ih =>
      rw [history, happenings, List.map_cons, ← ih]
      rfl

theorem pastOf_concat (display : Display π μ) (calls : List (Call Command)) (call : Call Command) :
    pastOf display (calls ++ [call]) =
      ⟨call, leftBy display (pastOf display calls)⟩ :: pastOf display calls := by
  have happened : happenings display (calls ++ [call]) =
      happenings display calls ++ [⟨call, leftBy display (pastOf display calls)⟩] := by
    induction calls generalizing display with
    | nil => rfl
    | cons first calls ih =>
        have hleft : leftBy display (pastOf display (first :: calls)) =
            leftBy (Happening.mk first display).after
              (pastOf (Happening.mk first display).after calls) := by
          rw [pastOf, happenings, List.reverse_cons, ← pastOf]
          cases pastOf (Happening.mk first display).after calls <;> rfl
        rw [List.cons_append, happenings, ih, happenings, hleft]
        rfl
  rw [pastOf, happened, List.reverse_append]
  rfl

/-- Induction on a run, by its last call. -/
@[elab_as_elim]
theorem past_induction {display : Display π μ}
    {motive : List (Happening π μ) → Display π μ → Prop} (start : motive [] display)
    (next : ∀ past display call, motive past display →
      motive (⟨call, display⟩ :: past) (Happening.mk call display).after)
    (calls : List (Call Command)) :
    motive (pastOf display calls) (leftBy display (pastOf display calls)) := by
  induction calls using List.reverseRecOn with
  | nil => exact start
  | append_singleton calls call ih =>
      rw [pastOf_concat]
      exact next _ _ call ih

end Display

end MidiConsole
