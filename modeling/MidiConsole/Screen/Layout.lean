import MidiConsole.Text.Inspection

namespace MidiConsole

open Text

inductive Action where
  | refresh
  deriving DecidableEq

def Action.name : Action → String
  | refresh => "Refresh"

inductive Widget where
  | title (text : String)
  | label (text : String)
  | button (caption : String) (action : Action)
  | deviceList
  deriving DecidableEq

namespace Widget

def inspect : Widget → Inspection
  | title text => .tuple "Title" [.text text]
  | label text => .tuple "Label" [.text text]
  | button caption action =>
      .record "Button" [("label", .text caption), ("action", .atom action.name)] true
  | deviceList => .atom "DeviceList"

def underline (title : String) : String :=
  String.ofList (List.replicate title.length '=')

def draw (devices : String) : Widget → String
  | title text => text ++ "\n" ++ underline text ++ "\n\n"
  | label text => text ++ "\n\n"
  | button caption _ => "[ " ++ caption ++ " ]\n\n"
  | deviceList => devices

end Widget

/-- The widgets of a screen, from top to bottom. -/
structure Layout where
  widgets : List Widget
  deriving DecidableEq

namespace Layout

def inspect (layout : Layout) : Inspection :=
  .record "ShellLayout" [("widgets", .items (layout.widgets.map Widget.inspect))] true

def draw (layout : Layout) (devices : String) : String :=
  String.join (layout.widgets.map (Widget.draw devices))

end Layout

/-- The texts of a screen that its user chooses. -/
structure ScreenConfig where
  title : String := "MIDI Device Probe"
  refreshLabel : String := "Refresh MIDI Devices"
  deriving DecidableEq

namespace ScreenConfig

def inspect (config : ScreenConfig) : Inspection :=
  .record "ShellConfig"
    [("title", .text config.title), ("refresh_label", .text config.refreshLabel)] true

def layout (config : ScreenConfig) (version : String) : Layout :=
  ⟨[.title config.title, .label version, .button config.refreshLabel .refresh, .deviceList]⟩

end ScreenConfig

end MidiConsole
