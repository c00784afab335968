import MidiConsole.Proofs.Showing

namespace MidiConsole

open Journaled

namespace Display

/-- What matters to a viewer that looks for news. -/
inductive Touch where
  | subscribed (screen : Nat)
  | acknowledged
  | told
  | forgot
  | published (devices : String)
  deriving DecidableEq

namespace Touch

/-- From then on, everything on the panel counts as seen. -/
def settles : Touch → Bool
  | subscribed _ | acknowledged | told => true
  | forgot | published _ => false

end Touch

/-- In a story that is told from its end, something new has come up since the viewer was
last settled. -/
def NewsIn (story : List Touch) : Prop :=
  ∃ later touch earlier, story = later ++ touch :: earlier ∧ touch.settles = false ∧
    ∀ other ∈ later, other.settles = false

theorem newsIn_cons_of_settles {touch : Touch} (h : touch.settles) (story : List Touch) :
    ¬NewsIn (touch :: story) := by
  rintro ⟨_ | ⟨first, later⟩, last, earlier, hstory, hlast, hlater⟩
  · obtain ⟨rfl, -⟩ := List.cons.inj hstory
    rw [h] at hlast
    cases hlast
  · obtain ⟨rfl, -⟩ := List.cons.inj hstory
    rw [hlater touch List.mem_cons_self] at h
    cases h

theorem newsIn_cons_of_not_settles {touch : Touch} (h : touch.settles = false)
    (story : List Touch) : NewsIn (touch :: story) :=
  ⟨[], touch, story, rfl, h, List.forall_mem_nil _⟩

variable {π μ : Type}

/-- What a viewer owes to its story: it watches the screen that it has subscribed to, and
it has not seen the edition there if and only if there is news. -/
structure Watches (edition : π → Nat) (seen : μ → Option Nat) (story : List Touch)
    (viewer : Viewer μ) (screen : Screen π) : Prop where
  home : story.getLast? = some (.subscribed viewer.screen)
  seen_le : ∀ n, seen viewer.mark = some n → n ≤ edition screen.panel
  unseen_iff : seen viewer.mark ≠ some (edition screen.panel) ↔ NewsIn story

namespace Watches

variable {edition : π → Nat} {seen : μ → Option Nat} {tale : List Touch} {viewer next : Viewer μ}
  {screen : Screen π}

theorem getLast?_cons (h : Watches edition seen tale viewer screen) (touch : Touch) :
    (touch :: tale).getLast? = some (.subscribed viewer.screen) := by
  rw [List.getLast?_cons, h.home]
  rfl

theorem of_settles {touch : Touch} (htouch : touch.settles)
    (hhome : (touch :: tale).getLast? = some (.subscribed viewer.screen))
    (hseen : seen viewer.mark = some (edition screen.panel)) :
    Watches edition seen (touch :: tale) viewer screen where
  home := hhome
  seen_le n hn := by
    rw [hseen] at hn
    exact Nat.le_of_eq (Option.some.inj hn).symm
  unseen_iff := ⟨fun hne => absurd hseen hne, fun hnews =>
    absurd hnews (newsIn_cons_of_settles htouch tale)⟩

theorem of_seen_eq (h : Watches edition seen tale viewer screen)
    (hscreen : next.screen = viewer.screen) (hseen : seen next.mark = seen viewer.mark) :
    Watches edition seen tale next screen where
  home := by rw [hscreen, h.home]
  seen_le := by
    rw [hseen]
    exact h.seen_le
  unseen_iff := by
    rw [hseen]
    exact h.unseen_iff

end Watches

theorem Happening.published_eq_none {o : Happening π μ} (h : o.shown? = none) (index : Nat) :
    (o.before.viewers[index]?.bind fun viewer =>
      (o.shownOn? viewer.screen).map Touch.published) = none := by
  simp only [shownOn?, h, Option.bind_none, Option.map_none, Option.bind_fun_none]

variable [PanelSystem π μ]

namespace Happening

def original? (o : Happening π μ) (index : Nat) : Option Nat :=
  match o.deed?, o.outcome.result with
  | some (.cloned original), .ok (.subscribed viewer) =>
      if viewer = index then some original else none
  | _, _ => none

/-- What a call means to a viewer. -/
def touch? (o : Happening π μ) (index : Nat) : Option Touch :=
  match o.deed?, o.outcome.result with
  | some (.subscribed screen), .ok (.subscribed viewer) =>
      if viewer = index then some (.subscribed screen) else none
  | some (.acknowledged viewer), _ => if viewer = index then some .acknowledged else none
  | some (.told viewer), _ => if viewer = index then some .told else none
  | some (.forgot viewer), _ => if viewer = index then some .forgot else none
  | _, _ =>
      o.before.viewers[index]?.bind fun viewer => (o.shownOn? viewer.screen).map .published

end Happening

/-- The story of a viewer, told from its end: what has happened to it, and before it
was cloned to its original. -/
def story : List (Happening π μ) → Nat → List Touch
  | [], _ => []
  | o :: past, index =>
      match o.original? index with
      | some original => story past original
      | none => (o.touch? index).toList ++ story past index

namespace Happening

variable {o : Happening π μ} {index : Nat}

/-- What becomes of one viewer in a call. If anything does, the screens stay as they
are. -/
inductive Looks (o : Happening π μ) (index : Nat) : Option (Viewer μ) → Prop
  | stays (horiginal : o.original? index = none)
      (htouch : o.touch? index =
        o.before.viewers[index]?.bind fun viewer => (o.shownOn? viewer.screen).map .published) :
      Looks o index o.before.viewers[index]?
  | watches {place : Nat} {screen : Screen π} (hnone : o.before.viewers[index]? = none)
      (hscreen : o.before.screen? place = some screen) (horiginal : o.original? index = none)
      (htouch : o.touch? index = some (.subscribed place))
      (hscreens : o.after.screens = o.before.screens) :
      Looks o index (some (.watching place screen.panel))
  | cloned {original : Nat} {viewer : Viewer μ} {screen : Screen π}
      (hnone : o.before.viewers[index]? = none)
      (hviewer : o.before.viewer? original = some (viewer, screen))
      (horiginal : o.original? index = some original)
      (hscreens : o.after.screens = o.before.screens) :
      Looks o index (some (viewer.copy π))
  | acknowledged {viewer : Viewer μ} {screen : Screen π}
      (hviewer : o.before.viewer? index = some (viewer, screen))
      (horiginal : o.original? index = none) (htouch : o.touch? index = some .acknowledged)
      (hscreens : o.after.screens = o.before.screens) :
      Looks o index (some (viewer.acknowledge screen.panel))
  | told {viewer : Viewer μ} {screen : Screen π}
      (hviewer : o.before.viewer? index = some (viewer, screen))
      (hnews : (screen.look viewer.mark).1 = .changed)
      (horiginal : o.original? index = none) (htouch : o.touch? index = some .told)
      (hscreens : o.after.screens = o.before.screens) :
      Looks o index (some { viewer with mark := (screen.look viewer.mark).2 })
  | looked {viewer : Viewer μ} {screen : Screen π}
      (hviewer : o.before.viewer? index = some (viewer, screen))
      (hnews : (screen.look viewer.mark).1 ≠ .changed)
      (horiginal : o.original? index = none) (htouch : o.touch? index = none)
      (hscreens : o.after.screens = o.before.screens) :
      Looks o index (some { viewer with mark := (screen.look viewer.mark).2 })
  | forgot {viewer : Viewer μ} {screen : Screen π}
      (hviewer : o.before.viewer? index = some (viewer, screen))
      (horiginal : o.original? index = none) (htouch : o.touch? index = some .forgot)
      (hscreens : o.after.screens = o.before.screens) :
      Looks o index (some (viewer.forget π))

theorem looks_set {place : Nat} {viewer next : Viewer μ} {screen : Screen π} {touch : Option Touch}
    (hviewer : o.before.viewer? place = some (viewer, screen)) (hshown : o.shown? = none)
    (horiginal : o.original? index = none)
    (htouch : o.touch? index = if place = index then touch else none)
    (hnext : place = index → o.touch? index = touch → Looks o index (some next)) :
    Looks o index (o.before.viewers.set place next)[index]? := by
  by_cases heq : place = index
  · subst heq
    rw [if_pos rfl] at htouch
    obtain ⟨hlt, -⟩ := List.getElem?_eq_some_iff.mp (viewer?_eq_some_iff.mp hviewer).1
    rw [List.getElem?_set_self hlt]
    exact hnext rfl htouch
  · rw [if_neg heq, ← published_eq_none hshown index] at htouch
    rw [List.getElem?_set_ne heq]
    exact .stays horiginal htouch

theorem looks (o : Happening π μ) (index : Nat) : Looks o index o.after.viewers[index]? := by
  have hdoes := o.does
  generalize hdeed : o.deed? = deed at hdoes
  generalize hshown : o.shown? = shown at hdoes
  generalize hafter : o.after = display at hdoes ⊢
  cases hdoes with
  | nothing | created | refreshed | closed =>
      exact .stays (by rw [original?, hdeed]) (by rw [touch?, hdeed])
  | @subscribed place screen hscreen hresult =>
      have horiginal : o.original? index = none := by rw [original?, hdeed]
      have htouch : o.touch? index =
          if o.before.viewers.length = index then some (.subscribed place) else none := by
        rw [touch?, hdeed, hresult]
      change Looks o index (o.before.viewers ++ [_])[index]?
      by_cases heq : o.before.viewers.length = index
      · rw [if_pos heq] at htouch
        subst heq
        rw [List.getElem?_concat_length]
        exact .watches (List.getElem?_eq_none (Nat.le_refl _)) hscreen horiginal htouch
          (by rw [hafter]; rfl)
      · rw [if_neg heq, ← published_eq_none hshown index] at htouch
        rw [getElem?_concat_of_ne heq]
        exact .stays horiginal htouch
  | @cloned original viewer screen hviewer hresult =>
      have horiginal : o.original? index =
          if o.before.viewers.length = index then some original else none := by
        rw [original?, hdeed, hresult]
      change Looks o index (o.before.viewers ++ [_])[index]?
      by_cases heq : o.before.viewers.length = index
      · rw [if_pos heq] at horiginal
        subst heq
        rw [List.getElem?_concat_length]
        exact .cloned (List.getElem?_eq_none (Nat.le_refl _)) hviewer horiginal
          (by rw [hafter]; rfl)
      · rw [if_neg heq] at horiginal
        rw [getElem?_concat_of_ne heq]
        exact .stays horiginal (by rw [touch?, hdeed])
  | @acknowledged place viewer screen hviewer =>
      have horiginal : o.original? index = none := by rw [original?, hdeed]
      refine looks_set hviewer hshown horiginal (by rw [touch?, hdeed]) fun heq htouch => ?_
      exact .acknowledged (heq ▸ hviewer) horiginal htouch (by rw [hafter]; rfl)
  | @told place viewer screen hviewer hnews =>
      have horiginal : o.original? index = none := by rw [original?, hdeed]
      refine looks_set hviewer hshown horiginal (by rw [touch?, hdeed]) fun heq htouch => ?_
      exact .told (heq ▸ hviewer) hnews horiginal htouch (by rw [hafter]; rfl)
  | @looked place viewer screen hviewer hnews =>
      have horiginal : o.original? index = none := by rw [original?, hdeed]
      have htouch : o.touch? index = none := by
        rw [touch?, hdeed]
        exact published_eq_none hshown index
      refine looks_set hviewer hshown horiginal (htouch.trans (ite_self none).symm) fun heq _ => ?_
      exact .looked (heq ▸ hviewer) hnews horiginal htouch (by rw [hafter]; rfl)
  | @forgot place viewer screen hviewer =>
      have horiginal : o.original? index = none := by rw [original?, hdeed]
      refine looks_set hviewer hshown horiginal (by rw [touch?, hdeed]) fun heq htouch => ?_
      exact .forgot (heq ▸ hviewer) horiginal htouch (by rw [hafter]; rfl)

end Happening

variable {edition : π → Nat} {seen : μ → Option Nat}

theorem look_eq_changed_iff (hversioned : PanelSystem.Versioned π edition seen)
    (screen : Screen π) (mark : μ) :
    (screen.look mark).1 = .changed ↔ seen mark ≠ some (edition screen.panel) := by
  constructor
  · intro hchanged hseen
    have hlook : (screen.look mark).1 = if screen.isOpen then .pending else .orphaned :=
      (hversioned.look_of_eq hseen screen.isOpen).1
    rw [hlook] at hchanged
    cases hopen : screen.isOpen <;> rw [hopen] at hchanged <;> cases hchanged
  · intro hseen
    exact (hversioned.look_of_ne hseen screen.isOpen).1

theorem look_eq_orphaned_iff (hversioned : PanelSystem.Versioned π edition seen)
    (screen : Screen π) (mark : μ) :
    (screen.look mark).1 = .orphaned ↔
      ¬seen mark ≠ some (edition screen.panel) ∧ screen.isOpen = false := by
  by_cases hseen : seen mark = some (edition screen.panel)
  · have hlook : (screen.look mark).1 = if screen.isOpen then .pending else .orphaned :=
      (hversioned.look_of_eq hseen screen.isOpen).1
    rw [hlook]
    cases screen.isOpen <;> simp [hseen]
  · have hchanged := (look_eq_changed_iff hversioned screen mark).mpr hseen
    rw [hchanged]
    simp [hseen]

namespace Watches

variable {tale : List Touch} {viewer next : Viewer μ} {screen : Screen π}

theorem forgot (hversioned : PanelSystem.Versioned π edition seen)
    (h : Watches edition seen tale viewer screen) :
    Watches edition seen (.forgot :: tale) (viewer.forget π) screen := by
  have hnone : seen (viewer.forget π).mark = none := hversioned.seen_forget viewer.mark
  refine ⟨h.getLast?_cons .forgot, fun n hn => ?_, ?_⟩
  · rw [hnone] at hn
    cases hn
  · rw [hnone]
    exact ⟨fun _ => newsIn_cons_of_not_settles rfl tale, fun _ => nofun⟩

theorem published (hversioned : PanelSystem.Versioned π edition seen)
    (h : Watches edition seen tale viewer screen) (devices : String) :
    Watches edition seen (.published devices :: tale) viewer (screen.publish devices) := by
  have hlater : edition screen.panel < edition (screen.publish devices).panel :=
    hversioned.edition_publish screen.panel devices
  refine ⟨h.getLast?_cons _, fun n hn => ?_, ?_⟩
  · exact Nat.le_trans (h.seen_le n hn) (Nat.le_of_lt hlater)
  · refine ⟨fun _ => newsIn_cons_of_not_settles rfl tale, fun _ hseen => ?_⟩
    exact Nat.not_lt.mpr (h.seen_le _ hseen) hlater

end Watches

/-- The viewers of a display watch as their stories tell, and no other one has a story. -/
def Attended (edition : π → Nat) (seen : μ → Option Nat) (past : List (Happening π μ))
    (display : Display π μ) : Prop :=
  ∀ index, match display.viewers[index]? with
    | some viewer => ∃ screen, display.screens[viewer.screen]? = some screen ∧
        Watches edition seen (story past index) viewer screen
    | none => story past index = []

theorem Attended.watches {past : List (Happening π μ)} {display : Display π μ}
    (h : Attended edition seen past display) {index : Nat} {viewer : Viewer μ}
    {screen : Screen π} (hviewer : display.viewer? index = some (viewer, screen)) :
    Watches edition seen (story past index) viewer screen := by
  obtain ⟨hget, hscreen⟩ := viewer?_eq_some_iff.mp hviewer
  have hindex := h index
  rw [hget] at hindex
  obtain ⟨found, hfound, hwatches⟩ := hindex
  obtain rfl := Option.some.inj (hfound.symm.trans hscreen)
  exact hwatches

theorem story_cons {o : Happening π μ} {index : Nat} (h : o.original? index = none)
    (past : List (Happening π μ)) :
    story (o :: past) index = (o.touch? index).toList ++ story past index := by
  rw [story, h]

theorem Attended.next (hversioned : PanelSystem.Versioned π edition seen)
    {past : List (Happening π μ)} {o : Happening π μ} (h : Attended edition seen past o.before) :
    Attended edition seen (o :: past) o.after := by
  intro index
  have hindex := h index
  have hlooks := o.looks index
  generalize o.after.viewers[index]? = after at hlooks ⊢
  cases hlooks with
  | stays horiginal htouch =>
      cases hviewer : o.before.viewers[index]? with
      | none =>
          rw [hviewer] at hindex htouch
          rw [story_cons horiginal, htouch]
          exact hindex
      | some viewer =>
          rw [hviewer] at hindex htouch
          obtain ⟨screen, hscreen, hwatches⟩ := hindex
          rw [Option.bind_some] at htouch
          rw [story_cons horiginal, htouch]
          -- The mark stays, so there is news just if the screen has a new edition.
          have hturns := o.turns viewer.screen
          generalize hafter : o.after.screens[viewer.screen]? = after at hturns
          cases hturns with
          | stays hshown =>
              rw [hshown]
              exact ⟨screen, hafter.trans hscreen, hwatches⟩
          | created hnone =>
              rw [hnone] at hscreen
              cases hscreen
          | @refreshed command found devices hcommand hrefreshes hfound hshown =>
              obtain rfl := Option.some.inj (hfound.symm.trans hscreen)
              rw [hshown]
              exact ⟨_, hafter, hwatches.published hversioned devices⟩
          | @closed found hcommand hfound hshown =>
              obtain rfl := Option.some.inj (hfound.symm.trans hscreen)
              rw [hshown]
              exact ⟨found.close, hafter, hwatches.home, hwatches.seen_le, hwatches.unseen_iff⟩
  | @watches place screen hnone hscreen horiginal htouch hscreens =>
      rw [hnone] at hindex
      refine ⟨screen, ?_, ?_⟩
      · rw [hscreens]
        exact getElem?_of_screen? hscreen
      · rw [story_cons horiginal, htouch, hindex]
        exact .of_settles rfl rfl (hversioned.seen_watch screen.panel)
  | @cloned original viewer screen hnone hviewer horiginal hscreens =>
      -- The copy takes over the story of its original.
      refine ⟨screen, ?_, ?_⟩
      · rw [hscreens]
        exact (viewer?_eq_some_iff.mp hviewer).2
      · rw [story, horiginal]
        exact (h.watches hviewer).of_seen_eq rfl (hversioned.seen_copy viewer.mark)
  | @acknowledged viewer screen hviewer horiginal htouch hscreens =>
      have hwatches := h.watches hviewer
      rw [story_cons horiginal, htouch, hscreens]
      refine ⟨screen, (viewer?_eq_some_iff.mp hviewer).2, ?_⟩
      exact .of_settles rfl (hwatches.getLast?_cons _)
        (hversioned.seen_acknowledge screen.panel viewer.mark)
  | @told viewer screen hviewer hnews horiginal htouch hscreens =>
      have hwatches := h.watches hviewer
      have hseen := (look_eq_changed_iff hversioned screen viewer.mark).mp hnews
      rw [story_cons horiginal, htouch, hscreens]
      refine ⟨screen, (viewer?_eq_some_iff.mp hviewer).2, ?_⟩
      exact .of_settles rfl (hwatches.getLast?_cons _)
        (hversioned.look_of_ne hseen screen.isOpen).2
  | @looked viewer screen hviewer hnews horiginal htouch hscreens =>
      have hseen : seen viewer.mark = some (edition screen.panel) :=
        Classical.not_not.mp fun hne =>
          hnews ((look_eq_changed_iff hversioned screen viewer.mark).mpr hne)
      rw [story_cons horiginal, htouch, hscreens]
      refine ⟨screen, (viewer?_eq_some_iff.mp hviewer).2, ?_⟩
      exact (h.watches hviewer).of_seen_eq rfl (hversioned.look_of_eq hseen screen.isOpen).2
  | @forgot viewer screen hviewer horiginal htouch hscreens =>
      rw [story_cons horiginal, htouch, hscreens]
      refine ⟨screen, (viewer?_eq_some_iff.mp hviewer).2, ?_⟩
      exact (h.watches hviewer).forgot hversioned

theorem attended (hversioned : PanelSystem.Versioned π edition seen) (source : Source)
    (calls : List (Call Command)) :
    Attended edition seen (pastOf ({ source } : Display π μ) calls)
      (leftBy { source } (pastOf { source } calls)) := by
  refine past_induction ?_ ?_ calls
  · intro index
    rfl
  · intro past display call h
    exact Attended.next (o := ⟨call, display⟩) hversioned h

/-- Viewers learn of every publication on their screens, and of nothing else. After every
run, an index has a story if and only if a viewer has it. A viewer reads the latest listing
of the screen that its story begins with. It is told of a change if and only if, since its
story was settled last, a refresh of that screen has been completed or the viewer has
forgotten what it had seen; that the screen is gone, only when there is no change to tell. -/
theorem viewers_learn_of_publications (hversioned : PanelSystem.Versioned π edition seen)
    (source : Source) (calls : List (Call Command)) :
    let past := pastOf ({ source } : Display π μ) calls
    let display := leftBy { source } past
    ∀ index,
      (story past index = [] ∧ ∀ command sink,
        attempt (perform (.viewer index command)) sink display = ⟨.ok .noViewer, [], display⟩) ∨
      ∃ place devices,
        (story past index).getLast? = some (.subscribed place) ∧
        past.findSome? (·.shownOn? place) = some devices ∧
        ∀ sink,
          attempt (perform (.viewer index .read)) sink display =
            ⟨.ok (.text devices), [], display⟩ ∧
          (attempt (perform (.viewer index .acknowledge)) sink display).result =
            .ok (.text devices) ∧
          ∃ news, (attempt (perform (.viewer index .poll)) sink display).result = .ok (.news news) ∧
            (news = .changed ↔ NewsIn (story past index)) ∧
            (news = .orphaned ↔ ¬NewsIn (story past index) ∧ display.screen? place = none) := by
  intro past display index
  have hindex := attended hversioned source calls index
  cases hget : display.viewers[index]? with
  | none =>
      rw [hget] at hindex
      refine .inl ⟨hindex, fun command sink => ?_⟩
      have hviewer : display.viewer? index = none := by rw [viewer?, hget, Option.bind_eq_bind,
        Option.bind_none]
      exact Happening.outcome_of_missing_viewer
        (o := ⟨⟨.viewer index command, sink⟩, display⟩) rfl hviewer
  | some viewer =>
      rw [hget] at hindex
      obtain ⟨screen, hscreen, hwatches⟩ := hindex
      have hviewer : display.viewer? index = some (viewer, screen) :=
        viewer?_eq_some_iff.mpr ⟨hget, hscreen⟩
      have hshows := kept hversioned source calls viewer.screen
      rw [hscreen] at hshows
      have hcall (command : ViewerCommand) (sink : Sink) :
          attempt (perform (.viewer index command)) sink display =
            attempt (performOnViewer index viewer screen command) sink display :=
        Happening.outcome_of_viewer (o := ⟨⟨.viewer index command, sink⟩, display⟩) rfl hviewer
      refine .inr ⟨viewer.screen, screen.text, hwatches.home, hshows.text_eq, fun sink =>
        ⟨hcall .read sink, ?_, (screen.look viewer.mark).1, ?_, ?_, ?_⟩⟩
      · rw [hcall .acknowledge sink]
        rfl
      · rw [hcall .poll sink]
        rfl
      · rw [look_eq_changed_iff hversioned, hwatches.unseen_iff]
      · rw [look_eq_orphaned_iff hversioned, hwatches.unseen_iff, screen?_eq_none_iff hscreen]

/-- A run in which the same listing comes up again, a viewer has a copy made of itself
before it is told of that, a refresh fails, and the screen is closed. -/
def sameListingSource : Source :=
  .plain (.repeating [] "1.0") (.repeating [.returns "keys", .returns "keys", .raises "gone"] "")

def sameListingRun : List (Call Command) :=
  [⟨.create {}, Sink.sound⟩,
    ⟨.screen 0 .subscribe, Sink.sound⟩,
    ⟨.screen 0 .refresh, Sink.sound⟩,
    ⟨.viewer 0 .read, Sink.sound⟩,
    ⟨.viewer 0 .clone, Sink.sound⟩,
    ⟨.viewer 0 .poll, Sink.sound⟩,
    ⟨.screen 0 .refresh, Sink.sound⟩,
    ⟨.screen 0 .drop, Sink.sound⟩]

theorem viewers_of_sameListingRun_learn :
    let past := pastOf ({ source := sameListingSource } : Display Panel Mark) sameListingRun
    let display := leftBy { source := sameListingSource } past
    story past 0 = [.told, .published "keys", .subscribed 0] ∧
      (attempt (perform (.viewer 0 .poll)) Sink.sound display).result = .ok (.news .orphaned) ∧
      story past 1 = [.published "keys", .subscribed 0] ∧
      (attempt (perform (.viewer 1 .poll)) Sink.sound display).result = .ok (.news .changed) := by
  intro past display
  have hfirst : story past 0 = [.told, .published "keys", .subscribed 0] := by decide +kernel
  have hsecond : story past 1 = [.published "keys", .subscribed 0] := by decide +kernel
  have hclosed : display.screen? 0 = none := by decide +kernel
  refine ⟨hfirst, ?_, hsecond, ?_⟩
  · obtain ⟨hnil, -⟩ | ⟨place, devices, hhome, -, hcalls⟩ :=
      viewers_learn_of_publications Panel.versioned sameListingSource sameListingRun 0
    · cases hfirst.symm.trans hnil
    · rw [hfirst] at hhome
      cases hhome
      obtain ⟨-, -, news, hpoll, -, horphaned⟩ := hcalls Sink.sound
      have hnews : ¬NewsIn (story past 0) := by
        rw [hfirst]
        exact newsIn_cons_of_settles rfl _
      rw [← horphaned.mpr ⟨hnews, hclosed⟩]
      exact hpoll
  · obtain ⟨hnil, -⟩ | ⟨place, devices, -, -, hcalls⟩ :=
      viewers_learn_of_publications Panel.versioned sameListingSource sameListingRun 1
    · cases hsecond.symm.trans hnil
    · obtain ⟨-, -, news, hpoll, hchanged, -⟩ := hcalls Sink.sound
      have hnews : NewsIn (story past 1) := by
        rw [hsecond]
        exact newsIn_cons_of_not_settles rfl _
      rw [← hchanged.mpr hnews]
      exact hpoll

end Display

end MidiConsole
