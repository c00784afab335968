import MidiConsole.Proofs.Happenings

namespace MidiConsole

open Journaled

namespace Display

open Source

theorem getElem?_concat_of_ne {α : Type} {list : List α} {index : Nat}
    (h : list.length ≠ index) (last : α) : (list ++ [last])[index]? = list[index]? := by
  rw [List.getElem?_append]
  split
  · rfl
  · next hlt =>
      rw [List.getElem?_eq_none (Nat.le_of_not_lt hlt), List.getElem?_singleton,
        if_neg (by omega)]

variable {π μ : Type}

theorem getElem?_of_screen? {display : Display π μ} {index : Nat} {screen : Screen π}
    (h : display.screen? index = some screen) : display.screens[index]? = some screen :=
  (Option.filter_eq_some_iff.mp h).1

theorem screen?_eq_none_iff {display : Display π μ} {index : Nat} {screen : Screen π}
    (h : display.screens[index]? = some screen) :
    display.screen? index = none ↔ screen.isOpen = false := by
  rw [screen?, h, Option.filter_some]
  cases screen.isOpen <;> simp

theorem viewer?_eq_some_iff {display : Display π μ} {index : Nat} {viewer : Viewer μ}
    {screen : Screen π} :
    display.viewer? index = some (viewer, screen) ↔
      display.viewers[index]? = some viewer ∧ display.screens[viewer.screen]? = some screen := by
  constructor
  · intro h
    obtain ⟨found, hfound, h⟩ := Option.bind_eq_some_iff.mp h
    obtain ⟨there, hthere, h⟩ := Option.bind_eq_some_iff.mp h
    cases h
    exact ⟨hfound, hthere⟩
  · rintro ⟨hviewer, hscreen⟩
    rw [viewer?, hviewer, Option.bind_eq_bind, Option.bind_some, hscreen]
    rfl

theorem screen?_of_screens_eq {display display' : Display π μ}
    (h : display'.screens = display.screens) (index : Nat) :
    display'.screen? index = display.screen? index := by
  rw [screen?, screen?, h]

variable [PanelSystem π μ]

namespace Happening

/-- The listing that a screen shows from a call on. -/
def shownOn? (o : Happening π μ) (index : Nat) : Option String :=
  o.shown?.bind fun (screen, devices) => if screen = index then some devices else none

/-- The texts and the version with which a call creates a screen. -/
def creationOf? (o : Happening π μ) (index : Nat) : Option (ScreenConfig × String) :=
  match o.call.command, (reply .version o.start).1, o.outcome.result with
  | .create config, .ok version, .ok (.created screen) =>
      if screen = index then some (config, version) else none
  | _, _, _ => none

variable {o : Happening π μ} {index : Nat}

theorem creationOf?_eq_none {deed : Option Deed} (hdeed : o.deed? = deed)
    (h : ∀ config, deed ≠ some (.created config)) (index : Nat) : o.creationOf? index = none := by
  rw [creationOf?]
  split
  · next config version screen hcommand hversion hresult =>
      refine absurd ?_ (h config)
      rw [← hdeed, deed?, hresult, hcommand]
      rfl
  · rfl

/-- What becomes of one screen in a call. -/
inductive Turns (o : Happening π μ) (index : Nat) : Option (Screen π) → Prop
  | stays (hshown : o.shownOn? index = none) (hcreation : o.creationOf? index = none) :
      Turns o index o.before.screens[index]?
  | created {config : ScreenConfig} {version devices : String}
      (hnone : o.before.screens[index]? = none) (hshown : o.shownOn? index = some devices)
      (hcreation : o.creationOf? index = some (config, version)) :
      Turns o index (some ((Screen.blank config version).publish devices))
  | refreshed {command : ScreenCommand} {screen : Screen π} {devices : String}
      (hcommand : o.call.command = .screen index command) (hrefreshes : command.refreshes)
      (hscreen : o.before.screens[index]? = some screen)
      (hshown : o.shownOn? index = some devices) (hcreation : o.creationOf? index = none) :
      Turns o index (some (screen.publish devices))
  | closed {screen : Screen π} (hcommand : o.call.command = .screen index .drop)
      (hscreen : o.before.screens[index]? = some screen) (hshown : o.shownOn? index = none)
      (hcreation : o.creationOf? index = none) :
      Turns o index (some screen.close)

theorem turns (o : Happening π μ) (index : Nat) : Turns o index o.after.screens[index]? := by
  have hdoes := o.does
  generalize hdeed : o.deed? = deed at hdoes
  generalize hshown : o.shown? = shown at hdoes
  generalize o.after = display at hdoes ⊢
  cases hdoes with
  | nothing | subscribed | acknowledged | told | looked | forgot | cloned =>
      exact .stays (by rw [shownOn?, hshown, Option.bind_none])
        (creationOf?_eq_none hdeed (fun _ => nofun) index)
  | @created config version devices hcommand hresult hversion =>
      have hcreation : o.creationOf? index =
          if o.before.screens.length = index then some (config, version) else none := by
        simp only [creationOf?, hcommand, hversion, hresult]
      have hshownOn : o.shownOn? index =
          if o.before.screens.length = index then some devices else none := by
        rw [shownOn?, hshown, Option.bind_some]
      change Turns o index (o.before.screens ++ [_])[index]?
      by_cases heq : o.before.screens.length = index
      · rw [if_pos heq] at hcreation hshownOn
        subst heq
        rw [List.getElem?_concat_length]
        exact .created (List.getElem?_eq_none (Nat.le_refl _)) hshownOn hcreation
      · rw [if_neg heq] at hcreation hshownOn
        rw [getElem?_concat_of_ne heq]
        exact .stays hshownOn hcreation
  | @refreshed refreshed command screen devices hcommand hrefreshes hscreen =>
      have hcreation := creationOf?_eq_none hdeed (fun _ => nofun) index
      have hshownOn : o.shownOn? index = if refreshed = index then some devices else none := by
        rw [shownOn?, hshown, Option.bind_some]
      change Turns o index (o.before.screens.modify refreshed _)[index]?
      rw [List.getElem?_modify]
      by_cases heq : refreshed = index
      · subst heq
        rw [if_pos rfl] at hshownOn
        have hget := getElem?_of_screen? hscreen
        simp only [hget, if_true, Option.map_eq_map, Option.map_some]
        exact .refreshed hcommand hrefreshes hget hshownOn hcreation
      · rw [if_neg heq] at hshownOn
        simp only [heq, if_false, id_map']
        exact .stays hshownOn hcreation
  | @closed closed screen hcommand hscreen =>
      have hcreation := creationOf?_eq_none hdeed (fun _ => nofun) index
      have hshownOn : o.shownOn? index = none := by rw [shownOn?, hshown, Option.bind_none]
      change Turns o index (o.before.screens.modify closed Screen.close)[index]?
      rw [List.getElem?_modify]
      by_cases heq : closed = index
      · subst heq
        have hget := getElem?_of_screen? hscreen
        simp only [hget, if_true, Option.map_eq_map, Option.map_some]
        exact .closed hcommand hget hshownOn hcreation
      · simp only [heq, if_false, id_map']
        exact .stays hshownOn hcreation

theorem screens_of_error {fault : Fault} (h : o.outcome.result = .error fault) :
    o.after.screens = o.before.screens := by
  have hdoes := o.does
  have hdeed : o.deed? = none := by rw [deed?, h]
  rw [hdeed] at hdoes
  generalize o.shown? = shown at hdoes
  generalize o.after = display at hdoes ⊢
  cases hdoes <;> rfl

end Happening

/-- What a screen owes to its past: it was created once, with its layout and label, and it
shows the latest listing that has been put on it. -/
structure Shows (past : List (Happening π μ)) (index : Nat) (screen : Screen π) : Prop where
  created : ∃ config version, past.filterMap (·.creationOf? index) = [(config, version)] ∧
    screen.layout = config.layout version ∧ screen.versionLabel = version
  text_eq : past.findSome? (·.shownOn? index) = some screen.text

namespace Shows

variable {past : List (Happening π μ)} {index : Nat} {screen screen' : Screen π}
  {o : Happening π μ}

theorem cons_of_eq (h : Shows past index screen) (hcreation : o.creationOf? index = none)
    (hlayout : screen'.layout = screen.layout) (hlabel : screen'.versionLabel = screen.versionLabel)
    (htext : ((o.shownOn? index).getD screen.text) = screen'.text) :
    Shows (o :: past) index screen' := by
  obtain ⟨config, version, hpast, hlayout', hlabel'⟩ := h.created
  refine ⟨⟨config, version, ?_, hlayout.trans hlayout', hlabel.trans hlabel'⟩, ?_⟩
  · rw [List.filterMap_cons, hcreation]
    exact hpast
  · rw [List.findSome?_cons, ← htext]
    cases o.shownOn? index with
    | none => exact h.text_eq
    | some devices => rfl

end Shows

/-- The screens of a display show what their past says, and no other one was created. -/
def Kept (past : List (Happening π μ)) (display : Display π μ) : Prop :=
  ∀ index, match display.screens[index]? with
    | some screen => Shows past index screen
    | none => past.filterMap (·.creationOf? index) = []

variable {edition : π → Nat} {seen : μ → Option Nat}

theorem Kept.next (hversioned : PanelSystem.Versioned π edition seen)
    {past : List (Happening π μ)} {o : Happening π μ} (h : Kept past o.before) :
    Kept (o :: past) o.after := by
  intro index
  have hindex := h index
  have hturns := o.turns index
  generalize o.after.screens[index]? = after at hturns ⊢
  cases hturns with
  | stays hshown hcreation =>
      split at hindex
      · exact hindex.cons_of_eq hcreation rfl rfl (by rw [hshown]; rfl)
      · simpa only [List.filterMap_cons, hcreation] using hindex
  | @created config version devices hnone hshown hcreation =>
      rw [hnone] at hindex
      refine ⟨⟨config, version, ?_, rfl, rfl⟩, ?_⟩
      · rw [List.filterMap_cons, hcreation]
        exact congrArg (_ :: ·) hindex
      · rw [List.findSome?_cons, hshown]
        exact congrArg some (hversioned.text_publish _ devices).symm
  | @refreshed command screen devices hcommand hrefreshes hscreen hshown hcreation =>
      rw [hscreen] at hindex
      refine hindex.cons_of_eq hcreation rfl rfl ?_
      rw [hshown]
      exact (hversioned.text_publish screen.panel devices).symm
  | closed hcommand hscreen hshown hcreation =>
      rw [hscreen] at hindex
      exact hindex.cons_of_eq hcreation rfl rfl (by rw [hshown]; rfl)

theorem kept (hversioned : PanelSystem.Versioned π edition seen) (source : Source)
    (calls : List (Call Command)) :
    Kept (pastOf ({ source } : Display π μ) calls)
      (leftBy { source } (pastOf { source } calls)) := by
  refine past_induction ?_ ?_ calls
  · intro index
    rfl
  · intro past display call h
    exact Kept.next (o := ⟨call, display⟩) hversioned h

theorem draw_layout (config : ScreenConfig) (version devices : String) :
    (config.layout version).draw devices =
      config.title ++ "\n" ++ String.ofList (List.replicate config.title.length '=') ++ "\n\n" ++
        version ++ "\n\n" ++ "[ " ++ config.refreshLabel ++ " ]\n\n" ++ devices := by
  simp only [Layout.draw, ScreenConfig.layout, Widget.draw, Widget.underline, List.map_cons,
    List.map_nil, String.join_cons, String.join_nil, String.append_assoc, String.append_empty]

theorem screen?_after {o : Happening π μ} {index : Nat} {screen : Screen π}
    (hscreen : o.before.screen? index = some screen)
    (h : (∀ command, o.call.command = .screen index command →
        command.refreshes = false ∧ command ≠ .drop) ∨
      ∃ fault, o.outcome.result = .error fault) :
    o.after.screen? index = some screen := by
  rcases h with hother | ⟨fault, herror⟩
  · have hget := getElem?_of_screen? hscreen
    have hturns := o.turns index
    rw [screen?]
    generalize o.after.screens[index]? = after at hturns ⊢
    cases hturns with
    | stays hshown hcreation => exact hscreen
    | created hnone hshown hcreation =>
        rw [hnone] at hget
        cases hget
    | refreshed hcommand hrefreshes hscreen hshown hcreation =>
        rw [(hother _ hcommand).1] at hrefreshes
        cases hrefreshes
    | closed hcommand hscreen hshown hcreation => exact absurd rfl (hother _ hcommand).2
  · rw [screen?_of_screens_eq (Happening.screens_of_error herror), hscreen]

/-- The screens of a display show their latest listings. After every run, an open screen
shows the listing of the last of its refreshes, the first one at its creation, for which
neither the request to the source nor the notice brought a fault. It has the title and the
caption that it was created with, and the version that the source gave then, and it is drawn
as these with the listing below. No other call changes it, and none that is cut short. -/
theorem screens_show_latest_listing (hversioned : PanelSystem.Versioned π edition seen)
    (source : Source) (calls : List (Call Command)) :
    let past := pastOf ({ source } : Display π μ) calls
    let display := leftBy { source } past
    ∀ index screen, display.screen? index = some screen →
      ∃ config version devices,
        past.filterMap (·.creationOf? index) = [(config, version)] ∧
        past.findSome? (·.shownOn? index) = some devices ∧
        (∀ sink,
          attempt (perform (.screen index .text)) sink display =
            ⟨.ok (.text devices), [], display⟩ ∧
          attempt (perform (.screen index .versionLabel)) sink display =
            ⟨.ok (.text version), [], display⟩ ∧
          attempt (perform (.screen index .layout)) sink display =
            ⟨.ok (.layout ⟨[.title config.title, .label version,
              .button config.refreshLabel .refresh, .deviceList]⟩), [], display⟩ ∧
          attempt (perform (.screen index .render)) sink display =
            ⟨.ok (.text (config.title ++ "\n" ++
              String.ofList (List.replicate config.title.length '=') ++ "\n\n" ++ version ++
              "\n\n" ++ "[ " ++ config.refreshLabel ++ " ]\n\n" ++ devices)), [], display⟩) ∧
        ∀ call : Call Command,
          ((∀ command, call.command = .screen index command →
              command.refreshes = false ∧ command ≠ .drop) ∨
            ∃ fault, (attempt (perform call.command) call.sink display).result = .error fault) →
          (attempt (perform call.command) call.sink display).state.screen? index = some screen := by
  intro past display index screen hscreen
  have hshows := kept hversioned source calls index
  rw [getElem?_of_screen? hscreen] at hshows
  obtain ⟨config, version, hcreated, hlayout, hlabel⟩ := hshows.created
  have hreads (command : ScreenCommand) (sink : Sink) :
      attempt (perform (.screen index command)) sink display =
        attempt (performOnScreen index screen command) sink display :=
    Happening.outcome_of_screen (o := ⟨⟨.screen index command, sink⟩, display⟩) rfl hscreen
  refine ⟨config, version, screen.text, hcreated, hshows.text_eq, fun sink => ⟨?_, ?_, ?_, ?_⟩, ?_⟩
  · exact hreads .text sink
  · rw [← hlabel]
    exact hreads .versionLabel sink
  · refine (hreads .layout sink).trans ?_
    rw [performOnScreen, hlayout]
    rfl
  · rw [← draw_layout, ← hlayout]
    exact hreads .render sink
  · intro call hcall
    exact screen?_after (o := ⟨call, display⟩) hscreen hcall

/-- A run with two screens. The first one is refreshed once, and then in vain: the source
fails, and then the log. -/
def twoScreensSource : Source :=
  .plain (.repeating [] "1.0")
    (.repeating [.returns "keys", .returns "pads", .returns "synth", .raises "gone"] "drums")

def twoScreensRun : List (Call Command) :=
  [⟨.create { title := "first" }, Sink.sound⟩,
    ⟨.create { title := "second" }, Sink.sound⟩,
    ⟨.screen 0 .click, Sink.sound⟩,
    ⟨.screen 0 .refresh, Sink.sound⟩,
    ⟨.screen 0 (.act .refresh), Sink.failingAt (some .trace)⟩,
    ⟨.screen 1 .sourceListing, Sink.sound⟩]

theorem firstScreen_of_twoScreensRun_shows_latest :
    let past := pastOf ({ source := twoScreensSource } : Display Panel Mark) twoScreensRun
    let display := leftBy { source := twoScreensSource } past
    past.findSome? (·.shownOn? 0) = some "synth" ∧
      attempt (perform (.screen 0 .text)) Sink.sound display =
        ⟨.ok (.text "synth"), [], display⟩ ∧
      attempt (perform (.screen 0 .versionLabel)) Sink.sound display =
        ⟨.ok (.text "1.0"), [], display⟩ ∧
      attempt (perform (.screen 0 .layout)) Sink.sound display =
        ⟨.ok (.layout ⟨[.title "first", .label "1.0", .button "Refresh MIDI Devices" .refresh,
          .deviceList]⟩), [], display⟩ ∧
      attempt (perform (.screen 0 .render)) Sink.sound display =
        ⟨.ok (.text "first\n=====\n\n1.0\n\n[ Refresh MIDI Devices ]\n\nsynth"), [], display⟩ := by
  intro past display
  have hopen : (display.screen? 0).isSome := by decide +kernel
  have hcreation : past.filterMap (·.creationOf? 0) = [({ title := "first" }, "1.0")] := by
    decide +kernel
  have hsynth : past.findSome? (·.shownOn? 0) = some "synth" := by decide +kernel
  obtain ⟨screen, hscreen⟩ := Option.isSome_iff_exists.mp hopen
  obtain ⟨config, version, devices, hcreated, hdevices, hreads, -⟩ :=
    screens_show_latest_listing Panel.versioned twoScreensSource twoScreensRun 0 screen hscreen
  obtain ⟨rfl, rfl⟩ := Prod.mk.inj (List.head_eq_of_cons_eq (hcreated.symm.trans hcreation))
  obtain rfl : devices = "synth" := Option.some.inj (hdevices.symm.trans hsynth)
  obtain ⟨htext, hversion, hlayout, hrender⟩ := hreads Sink.sound
  exact ⟨hsynth, htext, hversion, hlayout, hrender⟩

end Display

end MidiConsole
