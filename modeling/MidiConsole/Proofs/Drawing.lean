import MidiConsole.Proofs.Lines
import MidiConsole.Proofs.Showing

namespace MidiConsole

open Journaled

namespace Text

/-- What follows the first newlines of a text, if it has as many as are given. -/
def afterNewlines? : Nat → List Char → Option (List Char)
  | 0, text => some text
  | n + 1, text =>
      match text.dropWhile (· ≠ '\n') with
      | [] => none
      | _ :: rest => afterNewlines? n rest

def lineAt? (n : Nat) (text : List Char) : Option (List Char) :=
  (afterNewlines? n text).map fun rest => rest.takeWhile (· ≠ '\n')

theorem afterNewlines?_divided {line : List Char} (h : '\n' ∉ line) (n : Nat) (rest : List Char) :
    afterNewlines? (n + 1) (line ++ '\n' :: rest) = afterNewlines? n rest := by
  rw [afterNewlines?, dropWhile_divided h]

theorem toList_ofLines_cons_append (line : String) (lines : List String) (rest : String) :
    (ofLines (line :: lines) ++ rest).toList =
      line.toList ++ '\n' :: (ofLines lines ++ rest).toList := by
  rw [ofLines_cons_append, String.append_assoc, String.toList_append, String.toList_append]
  rfl

variable {lines : List String}

theorem afterNewlines?_ofLines (h : ∀ line ∈ lines, '\n' ∉ line.toList) (rest : String) :
    afterNewlines? lines.length (ofLines lines ++ rest).toList = some rest.toList := by
  induction lines with
  | nil =>
      rw [ofLines_nil_append]
      rfl
  | cons line lines ih =>
      obtain ⟨hline, hlines⟩ := List.forall_mem_cons.mp h
      rw [toList_ofLines_cons_append, List.length_cons, afterNewlines?_divided hline]
      exact ih hlines

theorem lineAt?_ofLines (h : ∀ line ∈ lines, '\n' ∉ line.toList) {k : Nat} {line : String}
    (hline : lines[k]? = some line) (rest : String) :
    lineAt? k (ofLines lines ++ rest).toList = some line.toList := by
  induction lines generalizing k with
  | nil => cases hline
  | cons first lines ih =>
      obtain ⟨hfirst, hlines⟩ := List.forall_mem_cons.mp h
      rw [toList_ofLines_cons_append]
      rcases k with _ | k
      · obtain rfl : first = line := Option.some.inj hline
        exact congrArg some (takeWhile_divided hfirst _)
      · rw [lineAt?, afterNewlines?_divided hfirst]
        exact ih hlines hline

end Text

open Text

structure ScreenConfig.OneLine (config : ScreenConfig) (version : String) : Prop where
  title : '\n' ∉ config.title.toList
  version : '\n' ∉ version.toList
  refreshLabel : '\n' ∉ config.refreshLabel.toList

namespace ScreenConfig

def lines (config : ScreenConfig) (version : String) : List String :=
  [config.title, Widget.underline config.title, "", version, "",
    "[ " ++ config.refreshLabel ++ " ]", ""]

theorem draw_layout_eq_ofLines (config : ScreenConfig) (version devices : String) :
    (config.layout version).draw devices = ofLines (config.lines version) ++ devices := by
  simp [Layout.draw, layout, Widget.draw, lines, ofLines, String.join, String.append_assoc]

variable {config : ScreenConfig} {version : String}

theorem OneLine.notMem_of_mem_lines (h : config.OneLine version) :
    ∀ line ∈ config.lines version, '\n' ∉ line.toList := by
  have hunderline : '\n' ∉ (Widget.underline config.title).toList := by
    rw [Widget.underline, String.toList_ofList, List.mem_replicate]
    exact fun hmem => absurd hmem.2 (by decide)
  have hbutton : '\n' ∉ ("[ " ++ config.refreshLabel ++ " ]").toList := by
    simp only [String.toList_append, List.mem_append, not_or]
    exact ⟨⟨by decide, h.refreshLabel⟩, by decide⟩
  simp only [lines, List.forall_mem_cons]
  exact ⟨h.title, hunderline, List.not_mem_nil, h.version, List.not_mem_nil, hbutton,
    List.not_mem_nil, List.forall_mem_nil _⟩

/-- The title, the labels and the devices are found again in a drawing. -/
theorem OneLine.drawing_inj {config' : ScreenConfig} {version' devices devices' : String}
    (h : config.OneLine version) (h' : config'.OneLine version')
    (hdrawing : ofLines (config.lines version) ++ devices =
      ofLines (config'.lines version') ++ devices') :
    config.title = config'.title ∧ version = version' ∧
      config.refreshLabel = config'.refreshLabel ∧ devices = devices' := by
  have hline (k : Nat) {line line' : String} (hk : (config.lines version)[k]? = some line)
      (hk' : (config'.lines version')[k]? = some line') : line = line' := by
    have hsame := lineAt?_ofLines h.notMem_of_mem_lines hk devices
    rw [hdrawing, lineAt?_ofLines h'.notMem_of_mem_lines hk' devices'] at hsame
    exact String.toList_inj.mp (Option.some.inj hsame).symm
  have hbutton := hline 5 rfl rfl
  rw [String.append_left_inj, String.append_right_inj] at hbutton
  have hdevices := afterNewlines?_ofLines h.notMem_of_mem_lines devices
  have hdevices' := afterNewlines?_ofLines h'.notMem_of_mem_lines devices'
  rw [← hdrawing] at hdevices'
  exact ⟨hline 0 rfl rfl, hline 3 rfl rfl, hbutton,
    String.toList_inj.mp (Option.some.inj (hdevices.symm.trans hdevices'))⟩

end ScreenConfig

variable {π μ : Type} [PanelSystem π μ]

/-- What a screen keeps from its creation. -/
def Screen.face (screen : Screen π) : Layout × String :=
  (screen.layout, screen.versionLabel)

def ScreenConfig.face (config : ScreenConfig) (version : String) : Layout × String :=
  (config.layout version, version)

namespace Display

theorem Happening.face_after (o : Happening π μ) (index : Nat) :
    o.after.screens[index]?.map Screen.face =
      match o.creationOf? index with
      | some (config, version) => some (config.face version)
      | none => o.before.screens[index]?.map Screen.face := by
  have hturns := o.turns index
  generalize o.after.screens[index]? = after at hturns ⊢
  cases hturns with
  | stays hshown hcreation => rw [hcreation]
  | created hnone hshown hcreation =>
      rw [hcreation]
      rfl
  | refreshed hcommand hrefreshes hscreen hshown hcreation =>
      rw [hcreation, hscreen]
      rfl
  | closed hcommand hscreen hshown hcreation =>
      rw [hcreation, hscreen]
      rfl

theorem face_leftBy (source : Source) (calls : List (Call Command)) (index : Nat) :
    (leftBy { source } (pastOf ({ source } : Display π μ) calls)).screens[index]?.map Screen.face =
      ((pastOf ({ source } : Display π μ) calls).findSome? (·.creationOf? index)).map
        fun created => created.1.face created.2 := by
  refine past_induction ?_ ?_ calls
  · rfl
  · intro past display call ih
    rw [Happening.face_after, List.findSome?_cons]
    cases (Happening.mk call display).creationOf? index with
    | none => exact ih
    | some created => rfl

/-- An open screen that a run has left, with the texts that it was created with. -/
structure Stands (source : Source) (calls : List (Call Command)) (index : Nat)
    (config : ScreenConfig) (version : String) (display : Display π μ) : Prop where
  display_eq : display = leftBy { source } (pastOf { source } calls)
  isOpen : (display.screen? index).isSome
  created : (pastOf ({ source } : Display π μ) calls).findSome? (·.creationOf? index) =
    some (config, version)

/-- What a display replies about a screen, whatever the log does. -/
structure Tells (display : Display π μ) (index : Nat) (drawing version devices : String) :
    Prop where
  render (sink : Sink) : attempt (perform (.screen index .render)) sink display =
    ⟨.ok (.text drawing), [], display⟩
  versionLabel (sink : Sink) : attempt (perform (.screen index .versionLabel)) sink display =
    ⟨.ok (.text version), [], display⟩
  text (sink : Sink) : attempt (perform (.screen index .text)) sink display =
    ⟨.ok (.text devices), [], display⟩

theorem Stands.exists_tells {source : Source} {calls : List (Call Command)} {index : Nat}
    {config : ScreenConfig} {version : String} {display : Display π μ}
    (h : Stands source calls index config version display) :
    ∃ devices, display.Tells index (ofLines (config.lines version) ++ devices) version devices := by
  obtain ⟨screen, hscreen⟩ := Option.isSome_iff_exists.mp h.isOpen
  have hface : some screen.face = some (config.face version) := by
    have hleft := face_leftBy (π := π) source calls index
    rw [← h.display_eq, getElem?_of_screen? hscreen, h.created] at hleft
    exact hleft
  obtain ⟨hlayout, hversion⟩ := Prod.mk.inj (Option.some.inj hface)
  have hdrawing : screen.render = ofLines (config.lines version) ++ screen.text := by
    rw [Screen.render, hlayout, config.draw_layout_eq_ofLines]
  have hreads (command : ScreenCommand) (sink : Sink) :
      attempt (perform (.screen index command)) sink display =
        attempt (performOnScreen index screen command) sink display :=
    Happening.outcome_of_screen (o := ⟨⟨.screen index command, sink⟩, display⟩) rfl hscreen
  refine ⟨screen.text, fun sink => ?_, fun sink => ?_, fun sink => ?_⟩
  · rw [← hdrawing]
    exact hreads .render sink
  · rw [← hversion]
    exact hreads .versionLabel sink
  · exact hreads .text sink

/-- A drawing tells its screen. If the titles and labels have no newline, two open screens
are drawn alike just if they have the same title, version label, refresh label and listing.
The title is underlined by as many characters as it has, and the listing follows the seventh
newline. -/
theorem drawings_tell_screens {source source' : Source} {calls calls' : List (Call Command)}
    {index index' : Nat} {config config' : ScreenConfig} {version version' : String}
    {display display' : Display π μ} (hscreen : Stands source calls index config version display)
    (hscreen' : Stands source' calls' index' config' version' display')
    (hlines : config.OneLine version) (hlines' : config'.OneLine version') :
    ∃ drawing devices drawing' devices',
      display.Tells index drawing version devices ∧
      display'.Tells index' drawing' version' devices' ∧
      (drawing = drawing' ↔
        config.title = config'.title ∧ version = version' ∧
          config.refreshLabel = config'.refreshLabel ∧ devices = devices') ∧
      lineAt? 1 drawing.toList = some (List.replicate config.title.length '=') ∧
      afterNewlines? 7 drawing.toList = some devices.toList := by
  obtain ⟨devices, htells⟩ := hscreen.exists_tells
  obtain ⟨devices', htells'⟩ := hscreen'.exists_tells
  refine ⟨_, devices, _, devices', htells, htells', ⟨hlines.drawing_inj hlines', ?_⟩, ?_, ?_⟩
  · rintro ⟨htitle, rfl, hrefresh, rfl⟩
    rw [ScreenConfig.lines, ScreenConfig.lines, htitle, hrefresh]
  · have hunderline := lineAt?_ofLines hlines.notMem_of_mem_lines (k := 1) rfl devices
    rwa [Widget.underline, String.toList_ofList] at hunderline
  · exact afterNewlines?_ofLines hlines.notMem_of_mem_lines devices

/-- The title looks like a button, the labels look like underlines, and the first listing
looks like a screen. -/
def lookalikeSource : Source :=
  .plain (.repeating [] "======")
    (.repeating [.returns "[ go ]\n======\n\n", .returns "[ go ]\n======\n"] "")

def lookalikeRun : List (Call Command) :=
  [⟨.create { title := "[ go ]", refreshLabel := "======" }, Sink.sound⟩]

def refreshedLookalikeRun : List (Call Command) :=
  lookalikeRun ++ [⟨.screen 0 .refresh, Sink.sound⟩]

theorem drawing_of_lookalikeRun_changes :
    let display : Display Panel Mark :=
      leftBy { source := lookalikeSource } (pastOf { source := lookalikeSource } lookalikeRun)
    let display' : Display Panel Mark :=
      leftBy { source := lookalikeSource }
        (pastOf { source := lookalikeSource } refreshedLookalikeRun)
    ∃ drawing drawing',
      display.Tells 0 drawing "======" "[ go ]\n======\n\n" ∧
      display'.Tells 0 drawing' "======" "[ go ]\n======\n" ∧
      drawing ≠ drawing' := by
  intro display display'
  have hscreen : Stands lookalikeSource lookalikeRun 0
      { title := "[ go ]", refreshLabel := "======" } "======" display :=
    ⟨rfl, by decide +kernel, by decide +kernel⟩
  have hscreen' : Stands lookalikeSource refreshedLookalikeRun 0
      { title := "[ go ]", refreshLabel := "======" } "======" display' :=
    ⟨rfl, by decide +kernel, by decide +kernel⟩
  have hlines : ScreenConfig.OneLine { title := "[ go ]", refreshLabel := "======" } "======" :=
    ⟨by decide, by decide, by decide⟩
  obtain ⟨drawing, devices, drawing', devices', htells, htells', hsame, -⟩ :=
    drawings_tell_screens hscreen hscreen' hlines hlines
  have htext : (attempt (perform (.screen 0 .text)) Sink.sound display).result =
      .ok (.text "[ go ]\n======\n\n") := by
    decide +kernel
  have htext' : (attempt (perform (.screen 0 .text)) Sink.sound display').result =
      .ok (.text "[ go ]\n======\n") := by
    decide +kernel
  rw [htells.text] at htext
  rw [htells'.text] at htext'
  cases htext
  cases htext'
  exact ⟨drawing, drawing', htells, htells', fun heq =>
    absurd (hsame.mp heq).2.2.2 (by decide)⟩

end Display

end MidiConsole
