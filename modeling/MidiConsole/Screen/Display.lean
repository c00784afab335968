import MidiConsole.Screen.Layout
import MidiConsole.Screen.Panel
import MidiConsole.Source.Basic

namespace MidiConsole

open Text

structure Viewer (μ : Type) where
  screen : Nat
  mark : μ
  deriving DecidableEq

/-- A screen. A closed one only keeps its last text for its viewers. -/
structure Screen (π : Type) where
  layout : Layout
  versionLabel : String
  panel : π
  isOpen : Bool := true
  deriving DecidableEq

variable {π μ : Type} [PanelSystem π μ]

namespace Viewer

def watching (screen : Nat) (panel : π) : Viewer μ :=
  ⟨screen, PanelSystem.watch panel⟩

def acknowledge (viewer : Viewer μ) (panel : π) : Viewer μ :=
  { viewer with mark := PanelSystem.acknowledge panel viewer.mark }

def forget (π : Type) [PanelSystem π μ] (viewer : Viewer μ) : Viewer μ :=
  { viewer with mark := PanelSystem.forget π viewer.mark }

def copy (π : Type) [PanelSystem π μ] (viewer : Viewer μ) : Viewer μ :=
  { viewer with mark := PanelSystem.copy π viewer.mark }

end Viewer

namespace Screen

def blank (config : ScreenConfig) (version : String) : Screen π :=
  { layout := config.layout version
    versionLabel := version
    panel := PanelSystem.hang "" }

def text (screen : Screen π) : String :=
  PanelSystem.text screen.panel

def publish (screen : Screen π) (devices : String) : Screen π :=
  { screen with panel := PanelSystem.publish screen.panel devices }

def close (screen : Screen π) : Screen π :=
  { screen with isOpen := false }

def render (screen : Screen π) : String :=
  screen.layout.draw screen.text

def look (screen : Screen π) (mark : μ) : News × μ :=
  PanelSystem.look screen.panel screen.isOpen mark

end Screen

/-- Screens in the order of their creation, and viewers likewise. -/
structure Display (π μ : Type) where
  source : Source
  screens : List (Screen π) := []
  viewers : List (Viewer μ) := []

namespace Display

def screen? (display : Display π μ) (index : Nat) : Option (Screen π) :=
  display.screens[index]?.filter Screen.isOpen

def viewer? (display : Display π μ) (index : Nat) : Option (Viewer μ × Screen π) := do
  let viewer ← display.viewers[index]?
  let screen ← display.screens[viewer.screen]?
  pure (viewer, screen)

def addScreen (display : Display π μ) (screen : Screen π) : Display π μ :=
  { display with screens := display.screens ++ [screen] }

def changeScreen (index : Nat) (change : Screen π → Screen π) (display : Display π μ) :
    Display π μ :=
  { display with screens := display.screens.modify index change }

def addViewer (display : Display π μ) (viewer : Viewer μ) : Display π μ :=
  { display with viewers := display.viewers ++ [viewer] }

def setViewer (index : Nat) (viewer : Viewer μ) (display : Display π μ) : Display π μ :=
  { display with viewers := display.viewers.set index viewer }

inductive ScreenCommand where
  | refresh
  | act (action : Action)
  | click
  | text
  | versionLabel
  | layout
  | inspectLayout
  | render
  | sourceVersion
  | sourceListing
  | subscribe
  | drop
  deriving DecidableEq

inductive ViewerCommand where
  | read
  | acknowledge
  | forget
  | poll
  | clone
  deriving DecidableEq

inductive Command where
  | create (config : ScreenConfig)
  | screen (index : Nat) (command : ScreenCommand)
  | viewer (index : Nat) (command : ViewerCommand)
  deriving DecidableEq

inductive Reply where
  | created (screen : Nat)
  | subscribed (viewer : Nat)
  | text (text : String)
  | layout (layout : Layout)
  | dropped (existed : Bool)
  | forgotten
  | news (news : News)
  | noScreen
  | noViewer
  deriving DecidableEq

abbrev Act (π μ α : Type) : Type :=
  Journaled Query (Display π μ) α

def onSource {α : Type} (act : Journaled Query Source α) : Act π μ α :=
  Journaled.within source (fun source display => { display with source }) act

/-- Ask for a listing that is about to be shown. -/
def fetch : Act π μ String := do
  let devices ← onSource Source.listing
  Journaled.log (.refreshed devices)
  pure devices

/-- Add a screen that shows a first listing. Nothing is added unless all went
well. -/
def create (config : ScreenConfig) : Act π μ Reply := do
  let version ← onSource Source.version
  let devices ← fetch
  let index ← Journaled.reading fun display => display.screens.length
  Journaled.update fun display =>
    display.addScreen ((Screen.blank config version).publish devices)
  pure (.created index)

def refresh (index : Nat) : Act π μ Reply := do
  let devices ← fetch
  Journaled.update (changeScreen index fun screen => screen.publish devices)
  pure (.text devices)

def act (index : Nat) : Action → Act π μ Reply
  | .refresh => refresh index

def click (index : Nat) : Act π μ Reply :=
  act index .refresh

def subscribe (viewer : Viewer μ) : Act π μ Reply := do
  let index ← Journaled.reading fun display => display.viewers.length
  Journaled.update fun display => display.addViewer viewer
  pure (.subscribed index)

def performOnScreen (index : Nat) (screen : Screen π) : ScreenCommand → Act π μ Reply
  | .refresh => refresh index
  | .act action => act index action
  | .click => click index
  | .text => pure (.text screen.text)
  | .versionLabel => pure (.text screen.versionLabel)
  | .layout => pure (.layout screen.layout)
  | .inspectLayout => pure (.text screen.layout.inspect.compact)
  | .render => pure (.text screen.render)
  | .sourceVersion => Reply.text <$> onSource Source.version
  | .sourceListing => Reply.text <$> onSource Source.listing
  | .subscribe => subscribe (Viewer.watching index screen.panel)
  | .drop => do
      Journaled.update (changeScreen index Screen.close)
      pure (.dropped true)

def missingScreen : ScreenCommand → Reply
  | .drop => .dropped false
  | _ => .noScreen

def poll (index : Nat) (viewer : Viewer μ) (screen : Screen π) : Act π μ Reply := do
  let (news, mark) := screen.look viewer.mark
  Journaled.update (setViewer index { viewer with mark })
  pure (.news news)

def performOnViewer (index : Nat) (viewer : Viewer μ) (screen : Screen π) :
    ViewerCommand → Act π μ Reply
  | .read => pure (.text screen.text)
  | .acknowledge => do
      Journaled.update (setViewer index (viewer.acknowledge screen.panel))
      pure (.text screen.text)
  | .forget => do
      Journaled.update (setViewer index (viewer.forget π))
      pure .forgotten
  | .poll => poll index viewer screen
  | .clone => subscribe (viewer.copy π)

def perform : Command → Act π μ Reply
  | .create config => create config
  | .screen index command => do
      match ← Journaled.reading fun display => display.screen? index with
      | none => pure (missingScreen command)
      | some screen => performOnScreen index screen command
  | .viewer index command => do
      match ← Journaled.reading fun display => display.viewer? index with
      | none => pure .noViewer
      | some (viewer, screen) => performOnViewer index viewer screen command

end Display

end MidiConsole
