/-!
A panel shows a text, and every publication replaces it. A viewer keeps a mark of
what it has seen on a panel, so that it learns of each later publication once.

Screens and viewers work with any system of panels and marks. One system is given,
which counts the editions of a panel.
-/

namespace MidiConsole

/-- What a viewer learns when it looks for news. -/
inductive News where
  | changed
  | orphaned
  | pending
  deriving DecidableEq

def News.orphanedMessage : String :=
  "disconnected from publisher"

/-- Panels, and the marks of what viewers have seen on them. -/
class PanelSystem (π : Type) (μ : outParam Type) where
  /-- A new panel, with its first text. -/
  hang : String → π
  publish : π → String → π
  text : π → String
  /-- The mark of a viewer that begins to watch a panel. -/
  watch : π → μ
  /-- The text of the panel counts as seen. -/
  acknowledge : π → μ → μ
  /-- Nothing counts as seen. -/
  forget : μ → μ
  copy : μ → μ
  /-- What is new on a panel, whose screen is open or not, and the mark after that. -/
  look : π → Bool → μ → News × μ

/-- What is relied on in a system of panels and marks: a panel has an edition, and a mark
tells which edition counts as seen, if any. A publication replaces the text and makes a
later edition; an edition that has not been seen is news, and it is told before it is
told that the screen is gone. -/
structure PanelSystem.Versioned (π : Type) {μ : Type} [PanelSystem π μ] (edition : π → Nat)
    (seen : μ → Option Nat) : Prop where
  text_publish (panel : π) (devices : String) : text (publish panel devices) = devices
  edition_publish (panel : π) (devices : String) : edition panel < edition (publish panel devices)
  seen_watch (panel : π) : seen (watch panel) = some (edition panel)
  seen_acknowledge (panel : π) (mark : μ) : seen (acknowledge panel mark) = some (edition panel)
  seen_forget (mark : μ) : seen (forget π mark) = none
  seen_copy (mark : μ) : seen (copy π mark) = seen mark
  look_of_ne {panel : π} {mark : μ} (h : seen mark ≠ some (edition panel)) (isOpen : Bool) :
    (look panel isOpen mark).1 = .changed ∧
      seen (look panel isOpen mark).2 = some (edition panel)
  look_of_eq {panel : π} {mark : μ} (h : seen mark = some (edition panel)) (isOpen : Bool) :
    (look panel isOpen mark).1 = (if isOpen then .pending else .orphaned) ∧
      seen (look panel isOpen mark).2 = seen mark

/-- A text on display, and how often it has been published. -/
structure Panel where
  text : String
  edition : Nat := 0
  deriving DecidableEq

/-- The edition seen last, if any counts as seen. -/
structure Mark where
  seen : Option Nat
  deriving DecidableEq

namespace Panel

/-- Replace the text. The same text again is an edition of its own. -/
def publish (panel : Panel) (text : String) : Panel :=
  ⟨text, panel.edition + 1⟩

def mark (panel : Panel) : Mark :=
  ⟨some panel.edition⟩

/-- What is new on a panel. That the screen is gone is told only once every edition has
been seen. -/
def news (panel : Panel) (isOpen : Bool) (mark : Mark) : News :=
  if mark ≠ panel.mark then .changed
  else if isOpen then .pending
  else .orphaned

end Panel

@[default_instance]
instance : PanelSystem Panel Mark where
  hang text := { text }
  publish := Panel.publish
  text := Panel.text
  watch := Panel.mark
  acknowledge panel _ := panel.mark
  forget _ := ⟨none⟩
  copy mark := mark
  look panel isOpen mark := (panel.news isOpen mark, panel.mark)

theorem Panel.versioned : PanelSystem.Versioned Panel Panel.edition Mark.seen where
  text_publish _ _ := rfl
  edition_publish panel _ := Nat.lt_succ_self panel.edition
  seen_watch _ := rfl
  seen_acknowledge _ _ := rfl
  seen_forget _ := rfl
  seen_copy _ := rfl
  look_of_ne {panel mark} h isOpen := by
    have hne : mark ≠ panel.mark := fun heq => h (congrArg Mark.seen heq)
    exact ⟨if_pos hne, rfl⟩
  look_of_eq {panel mark} h isOpen := by
    obtain rfl : mark = panel.mark := congrArg Mark.mk h
    exact ⟨if_neg (fun hne => hne rfl), rfl⟩

end MidiConsole
